import SearchBox.Proofs.Sql.Operands
import SearchBox.Proofs.Sql.Precedence

/-! What is written for predicates and conditions is read as what they are: each predicate as one test
on its column, and each condition as its formula over these tests. -/

namespace SearchBox.Sql

/-- The type that an operand is cast to. -/
def castType? : FieldType → Option (List Char)
  | .string => none
  | .number => some "numeric".toList
  | .date => some "date".toList
  | .boolean => some "boolean".toList

section Tests

variable {ν μ : Type}

/-- A column by the parts of its SQL text. -/
def Term.ofColumn (column : String) : Term ν :=
  .column ((columnTokens column).filterMap SqlToken.identifier?)

def Scalar.typed (type : FieldType) (operand : ν) : Scalar ν :=
  match castType? type with
  | some name => .cast (.parameter operand) name
  | none => .plain (.parameter operand)

def Predicate.test : Predicate ν → Test ν
  | pattern column operand => .like (.plain (.ofColumn column)) (.plain (.parameter operand))
  | fullText column configuration reading operand => .operation "@@".toList
      (.call "to_tsvector".toList (.string configuration.toList) (.ofColumn column))
      (.call reading.function.toList (.string configuration.toList) (.parameter operand))
  | ranked column operand =>
    .operation "@@@".toList (.plain (.ofColumn column)) (.plain (.parameter operand))
  | equals column type operand =>
    .operation "=".toList (.plain (.ofColumn column)) (.typed type operand)
  | bound column comparison type operand =>
    .operation comparison.symbol.toList (.plain (.ofColumn column)) (.typed type operand)
  | between column type low high =>
    .between (.plain (.ofColumn column)) (.typed type low) (.typed type high)
  | member column type operands =>
    .member (.plain (.ofColumn column)) (operands.map (Scalar.typed type))

@[simp] theorem Scalar.map_typed (change : ν → μ) (type : FieldType) (operand : ν) :
    (typed type operand).map change = typed type (change operand) := by
  cases type <;> rfl

theorem Predicate.test_map (change : ν → μ) (predicate : Predicate ν) :
    (predicate.map change).test = predicate.test.map change := by
  have column (name : String) : (Scalar.plain (.ofColumn name)).map change = .plain (.ofColumn name) :=
    rfl
  cases predicate with
  | pattern | fullText | ranked => rfl
  | equals | bound | between | member => simp [Predicate.map, test, Test.map, column]

end Tests

/-! Readers in front of a rest that they leave alone. -/

theorem readParts?_nameTokens (part name : List Char) {rest : List SqlToken}
    (apart : rest.head? ≠ some (.symbol '.')) :
    readParts? (Scan.nameTokens part name ++ rest) =
      some ((Scan.nameTokens part name).filterMap SqlToken.identifier?, rest) := by
  fun_induction Scan.nameTokens part name with
  | case1 part =>
    cases rest with
    | nil => rfl
    | cons token rest =>
      have other : token ≠ .symbol '.' := fun same => apart (congrArg some same)
      simp [readParts?, other, SqlToken.identifier?]
  | case2 part name ih =>
    rw [List.cons_append, List.cons_append, readParts?, ih]
    rfl
  | case3 part c name _ ih => exact ih

theorem readTerm?_of_readParts? {tokens rest : List SqlToken} {parts : List (List Char)}
    (read : readParts? tokens = some (parts, rest)) :
    readTerm? tokens = some (.column parts, rest) := by
  unfold readTerm?
  split
  · cases read
  · cases read
  · rw [read]
    rfl

theorem readTerm?_column {column : String} (quoted : ∃ name, column = quoteIdentifier name)
    {rest : List SqlToken} (apart : rest.head? ≠ some (.symbol '.')) :
    readTerm? (columnTokens column ++ rest) = some (.ofColumn column, rest) := by
  obtain ⟨name, rfl⟩ := quoted
  rw [Term.ofColumn, columnTokens, Scan.scan?_quoteIdentifier, Option.getD_some]
  exact readTerm?_of_readParts? (readParts?_nameTokens [] name.toList apart)

theorem readScalar?_of_readTerm? {tokens rest : List SqlToken} {term : Term Nat}
    (read : readTerm? tokens = some (term, rest)) (apart : rest.head? ≠ some .cast) :
    readScalar? tokens = some (.plain term, rest) := by
  unfold readScalar?
  split
  · cases read
  · rw [read]
    cases rest with
    | nil => rfl
    | cons token rest =>
      cases token with
      | cast => exact (apart rfl).elim
      | _ => rfl

theorem readScalar?_of_cast {tokens rest : List SqlToken} {term : Term Nat} {type : List Char}
    (read : readTerm? tokens = some (term, .cast :: .word type :: rest)) :
    readScalar? tokens = some (.cast term type, rest) := by
  unfold readScalar?
  split
  · cases read
  · rw [read]
    rfl

theorem readScalar?_of_call {function : List Char} (free : Reserved.ofWord? function = none)
    {tokens middle rest : List SqlToken} {first second : Term Nat}
    (read : readTerm? tokens = some (first, .symbol ',' :: middle))
    (read' : readTerm? middle = some (second, .symbol ')' :: rest)) :
    readScalar? (.word function :: .symbol '(' :: tokens) =
      some (.call function first second, rest) := by
  simp [readScalar?, free, skip?, read, read']

theorem readScalar?_column {column : String} (quoted : ∃ name, column = quoteIdentifier name)
    {token : SqlToken} (noDot : token ≠ .symbol '.') (noCast : token ≠ .cast)
    (rest : List SqlToken) : readScalar? (columnTokens column ++ token :: rest) =
      some (.plain (.ofColumn column), token :: rest) :=
  readScalar?_of_readTerm? (readTerm?_column quoted (by simpa using noDot)) (by simpa using noCast)

theorem readScalar?_typed (type : FieldType) (number : Nat) {rest : List SqlToken}
    (apart : rest.head? ≠ some .cast) :
    readScalar? (typedTokens type number ++ rest) = some (.typed type number, rest) := by
  cases type with
  | string => exact readScalar?_of_readTerm? rfl apart
  | number | date | boolean => exact readScalar?_of_cast rfl

theorem readItems?_of_last {tokens rest : List SqlToken} {item : Scalar Nat}
    (read : readScalar? tokens = some (item, .symbol ')' :: rest)) :
    readItems? tokens = some ([item], rest) := by
  unfold readItems?
  split <;> simp_all

theorem readItems?_of_next {tokens rest rest' : List SqlToken} {item : Scalar Nat}
    {items : List (Scalar Nat)} (read : readScalar? tokens = some (item, .symbol ',' :: rest))
    (more : readItems? rest = some (items, rest')) :
    readItems? tokens = some (item :: items, rest') := by
  rw [readItems?]
  split <;> simp_all

theorem readItems?_typed (type : FieldType) {operands : List Nat} (filled : operands ≠ [])
    (rest : List SqlToken) :
    readItems? ([SqlToken.symbol ','].intercalate (operands.map (typedTokens type)) ++
      .symbol ')' :: rest) = some (operands.map (Scalar.typed type), rest) := by
  induction operands with
  | nil => exact (filled rfl).elim
  | cons operand later ih =>
    cases later with
    | nil =>
      have item : readScalar? (typedTokens type operand ++ .symbol ')' :: rest) =
          some (.typed type operand, .symbol ')' :: rest) :=
        readScalar?_typed type operand (by simp)
      rw [List.map_singleton, List.intercalate_singleton]
      exact readItems?_of_last item
    | cons next later =>
      have split : [SqlToken.symbol ','].intercalate
          ((operand :: next :: later).map (typedTokens type)) ++ .symbol ')' :: rest =
            typedTokens type operand ++ .symbol ',' :: ([SqlToken.symbol ','].intercalate
              ((next :: later).map (typedTokens type)) ++ .symbol ')' :: rest) := by
        simp [List.intercalate_cons_cons]
      rw [split]
      exact readItems?_of_next (readScalar?_typed type operand (by simp)) (ih (by simp))

section Tests

variable {tokens middle rest : List SqlToken} {tested : Scalar Nat}

theorem readTest?_of_operator {sign : List Char} {right : Scalar Nat}
    (read : readScalar? tokens = some (tested, .operator sign :: middle))
    (read' : readScalar? middle = some (right, rest)) :
    readTest? tokens = some (.operation sign tested right, rest) := by
  simp [readTest?, read, read']

theorem readTest?_of_ilike {word : List Char} (reserved : Reserved.ofWord? word = some .ilike)
    {pattern : Scalar Nat} (read : readScalar? tokens = some (tested, .word word :: middle))
    (read' : readScalar? middle = some (pattern, rest)) :
    readTest? tokens = some (.like tested pattern, rest) := by
  simp [readTest?, read, reserved, read']

/-- The word `AND` behind the lower bound belongs to the test. -/
theorem readTest?_of_between {word word' : List Char}
    (reserved : Reserved.ofWord? word = some .between)
    (reserved' : Reserved.ofWord? word' = some .and) {low high : Scalar Nat}
    {upper : List SqlToken} (read : readScalar? tokens = some (tested, .word word :: middle))
    (lower : readScalar? middle = some (low, .word word' :: upper))
    (higher : readScalar? upper = some (high, rest)) :
    readTest? tokens = some (.between tested low high, rest) := by
  simp [readTest?, read, reserved, lower, skipWord?, reserved', higher]

theorem readTest?_of_member {word : List Char} (reserved : Reserved.ofWord? word = some .isIn)
    {items : List (Scalar Nat)}
    (read : readScalar? tokens = some (tested, .word word :: .symbol '(' :: middle))
    (listed : readItems? middle = some (items, rest)) :
    readTest? tokens = some (.member tested items, rest) := by
  simp [readTest?, read, reserved, skip?, listed]

end Tests

/-- There is something to compare with. -/
def Predicate.Filled {ν : Type} (predicate : Predicate ν) : Prop :=
  predicate.operands ≠ []

theorem readScalar?_searched {column : String} (quoted : ∃ name, column = quoteIdentifier name)
    (configuration : List Char) (rest : List SqlToken) :
    readScalar? (.word "to_tsvector".toList :: .symbol '(' :: .string configuration ::
        .symbol ',' :: (columnTokens column ++ .symbol ')' :: rest)) =
      some (.call "to_tsvector".toList (.string configuration) (.ofColumn column), rest) := by
  have free : Reserved.ofWord? "to_tsvector".toList = none := by decide
  have first : readTerm? (.string configuration :: .symbol ',' ::
      (columnTokens column ++ .symbol ')' :: rest)) = some (.string configuration,
        .symbol ',' :: (columnTokens column ++ .symbol ')' :: rest)) := rfl
  exact readScalar?_of_call free first (readTerm?_column quoted (by simp))

theorem readScalar?_query (reading : QueryReading) (configuration : List Char) (operand : Nat)
    (rest : List SqlToken) :
    readScalar? (.word reading.function.toList :: .symbol '(' :: .string configuration ::
        .symbol ',' :: .placeholder operand :: .symbol ')' :: rest) =
      some (.call reading.function.toList (.string configuration) (.parameter operand), rest) := by
  have free : Reserved.ofWord? reading.function.toList = none := by cases reading <;> decide
  exact readScalar?_of_call free rfl rfl

/-- The text of a predicate is read as its test, in front of anything that is no cast. -/
theorem readTest?_tokens {predicate : Predicate Nat} (readable : predicate.Readable)
    (filled : predicate.Filled) {rest : List SqlToken} (apart : rest.head? ≠ some .cast) :
    readTest? (predicate.tokens ++ rest) = some (predicate.test, rest) := by
  obtain ⟨quoted, _⟩ := readable
  have parameter (operand : Nat) :
      readScalar? (.placeholder operand :: rest) = some (.plain (.parameter operand), rest) :=
    readScalar?_of_readTerm? rfl apart
  cases predicate with
  | pattern column operand =>
    rw [Predicate.tokens, List.append_assoc]
    exact readTest?_of_ilike (by decide) (readScalar?_column quoted (by simp) (by simp) _)
      (parameter operand)
  | ranked column operand =>
    rw [Predicate.tokens, List.append_assoc]
    exact readTest?_of_operator (readScalar?_column quoted (by simp) (by simp) _)
      (parameter operand)
  | equals column type operand =>
    rw [Predicate.tokens, List.append_assoc]
    exact readTest?_of_operator (readScalar?_column quoted (by simp) (by simp) _)
      (readScalar?_typed type operand apart)
  | bound column comparison type operand =>
    rw [Predicate.tokens, List.append_assoc]
    exact readTest?_of_operator (readScalar?_column quoted (by simp) (by simp) _)
      (readScalar?_typed type operand apart)
  | between column type low high =>
    rw [Predicate.tokens, List.append_assoc, List.cons_append, List.append_assoc]
    exact readTest?_of_between (by decide) (by decide)
      (readScalar?_column quoted (by simp) (by simp) _)
      (readScalar?_typed type low (by simp)) (readScalar?_typed type high apart)
  | member column type operands =>
    rw [Predicate.tokens, List.append_assoc, List.cons_append, List.cons_append, List.append_assoc]
    exact readTest?_of_member (by decide) (readScalar?_column quoted (by simp) (by simp) _)
      (readItems?_typed type filled rest)
  | fullText column configuration reading operand =>
    have tokens : (Predicate.fullText column configuration reading operand).tokens ++ rest =
        .word "to_tsvector".toList :: .symbol '(' :: .string configuration.toList :: .symbol ',' ::
          (columnTokens column ++ .symbol ')' :: .operator "@@".toList ::
            .word reading.function.toList :: .symbol '(' :: .string configuration.toList ::
              .symbol ',' :: .placeholder operand :: .symbol ')' :: rest) := by
      simp [Predicate.tokens]
    rw [tokens]
    exact readTest?_of_operator (readScalar?_searched quoted configuration.toList _)
      (readScalar?_query reading configuration.toList operand rest)

/-! Conditions are divided into pieces. -/

/-- A token that a test begins with is no piece by itself. -/
theorem Piece.ofToken?_of_readTest? {token : SqlToken} {rest : List SqlToken}
    {result : Test Nat × List SqlToken} (read : readTest? (token :: rest) = some result) :
    Piece.ofToken? (α := Test Nat) token = none := by
  cases token with
  | word word =>
    cases reserved : Reserved.ofWord? word with
    | none => simp [ofToken?, reserved]
    | some other => simp [readTest?, readScalar?, reserved] at read
  | symbol c =>
    have none : readTest? (.symbol c :: rest) = none := rfl
    rw [none] at read
    cases read
  | _ => rfl

theorem pieces?_of_readTest? {tokens rest : List SqlToken} {test : Test Nat}
    (read : readTest? tokens = some (test, rest)) :
    pieces? tokens = (pieces? rest).map (.test test :: ·) := by
  cases tokens with
  | nil => cases read
  | cons token later =>
    rw [pieces?, Piece.ofToken?_of_readTest? read]
    simp only
    split <;> simp_all

theorem pieces?_of_ofToken? {token : SqlToken} {piece : Piece (Test Nat)}
    (is : Piece.ofToken? token = some piece) (rest : List SqlToken) :
    pieces? (token :: rest) = (pieces? rest).map (piece :: ·) := by
  rw [pieces?, is]

/-- The tokens are divided into these pieces, in front of anything that is no cast. -/
def Divides (tokens : List SqlToken) (pieces : List (Piece (Test Nat))) : Prop :=
  ∀ rest, rest.head? ≠ some .cast →
    pieces? (tokens ++ rest) = (pieces? rest).map (pieces ++ ·)

namespace Divides

theorem nil : Divides [] [] := by
  intro rest _
  cases found : pieces? rest <;> simp [found]

theorem cons {token : SqlToken} {piece : Piece (Test Nat)} {tokens : List SqlToken}
    {pieces : List (Piece (Test Nat))} (is : Piece.ofToken? token = some piece)
    (divides : Divides tokens pieces) : Divides (token :: tokens) (piece :: pieces) := by
  intro rest apart
  rw [List.cons_append, pieces?_of_ofToken? is, divides rest apart, Option.map_map]
  rfl

theorem append {first second : List SqlToken} {token : SqlToken} {piece : Piece (Test Nat)}
    {before after : List (Piece (Test Nat))} (divides : Divides first before)
    (is : Piece.ofToken? token = some piece) (later : Divides second after) :
    Divides (first ++ token :: second) (before ++ piece :: after) := by
  intro rest apart
  have noCast : token ≠ .cast := by
    rintro rfl
    cases is
  rw [List.append_assoc, divides _ (by simpa using noCast), later.cons is rest apart,
    Option.map_map]
  congr 1
  funext pieces
  simp

/-- A group of what is divided. -/
theorem group {tokens : List SqlToken} {pieces : List (Piece (Test Nat))}
    (divides : Divides tokens pieces) :
    Divides (.symbol '(' :: (tokens ++ [.symbol ')'])) (.opening :: (pieces ++ [.closing])) :=
  (divides.append rfl nil).cons rfl

theorem predicate {predicate : Predicate Nat} (readable : predicate.Readable)
    (filled : predicate.Filled) : Divides predicate.tokens [.test predicate.test] := by
  intro rest apart
  exact pieces?_of_readTest? (readTest?_tokens readable filled apart)

end Divides

theorem spells_foldl {α : Type} {left : Formula α} {pieces : List (Piece α)}
    (spells : Spells 1 left pieces) (others : List α) :
    Spells 1 (others.foldl (fun left other => .join .or left (.atom other)) left)
      (pieces ++ others.flatMap fun other => [.connective .or, .test other]) := by
  induction others generalizing left pieces with
  | nil => simpa using spells
  | cons other others ih =>
    have one : Spells 2 (.atom other) [.test other] := .lower (by decide) (.test other)
    have joined := ih (.join .or spells one)
    simpa using joined

/-- Tests with `OR` between them are their disjunction. -/
theorem spells_anyOf {α : Type} (first : α) (others : List α) :
    Spells 1 (Formula.anyOf first others)
      (.test first :: others.flatMap fun other => [.connective .or, .test other]) :=
  spells_foldl (.lower (by decide) (.test first)) others

theorem divides_alternatives {first : Predicate Nat} {others : List (Predicate Nat)}
    (readable : ∀ predicate ∈ first :: others, predicate.Readable)
    (filled : ∀ predicate ∈ first :: others, predicate.Filled) :
    Divides ([SqlToken.word "OR".toList].intercalate ((first :: others).map Predicate.tokens))
      (.test first.test ::
        (others.map Predicate.test).flatMap fun other => [.connective .or, .test other]) := by
  induction others generalizing first with
  | nil =>
    have one := Divides.predicate (readable first (by simp)) (filled first (by simp))
    simpa using one
  | cons next others ih =>
    have one := Divides.predicate (readable first (by simp)) (filled first (by simp))
    have is : Piece.ofToken? (.word "OR".toList) = some (.connective .or : Piece (Test Nat)) := by
      decide
    have later := ih (fun predicate member => readable predicate (List.mem_cons_of_mem _ member))
      (fun predicate member => filled predicate (List.mem_cons_of_mem _ member))
    have whole := one.append is later
    simpa [List.intercalate_cons_cons] using whole

namespace Condition

/-- The formula of tests that the alternatives stand for. -/
def alternativesTree? {ν : Type} : List (Predicate ν) → Option (Formula (Test ν))
  | [] => none
  | first :: others => some (.anyOf first.test (others.map Predicate.test))

def tree? {ν : Type} (condition : Condition ν) : Option (Formula (Test ν)) :=
  condition.substitute? alternativesTree?

def Filled {ν : Type} (condition : Condition ν) : Prop :=
  ∀ alternatives ∈ condition.atoms, ∀ predicate ∈ alternatives, predicate.Filled

theorem exists_pieces_alternatives {alternatives : List (Predicate Nat)}
    (readable : ∀ predicate ∈ alternatives, predicate.Readable)
    (filled : ∀ predicate ∈ alternatives, predicate.Filled) {tree : Formula (Test Nat)}
    (found : alternativesTree? alternatives = some tree) :
    ∃ pieces, Divides (alternativesTokens alternatives) pieces ∧ Spells 4 tree pieces := by
  match alternatives with
  | [] => cases found
  | [single] =>
    cases found
    exact ⟨_, .predicate (readable single (by simp)) (filled single (by simp)), .test single.test⟩
  | first :: next :: others =>
    cases found
    exact ⟨_, (divides_alternatives readable filled).group, .group (spells_anyOf first.test _)⟩

/-- The tokens of a condition are divided into pieces that spell its tree. -/
theorem exists_pieces {condition : Condition Nat} (readable : condition.Readable)
    (filled : condition.Filled) {tree : Formula (Test Nat)} (found : condition.tree? = some tree) :
    ∃ pieces, Divides condition.tokens pieces ∧ Spells 3 tree pieces := by
  induction condition generalizing tree with
  | atom alternatives =>
    obtain ⟨pieces, divides, spells⟩ := exists_pieces_alternatives
      (readable alternatives (by simp [Formula.atoms]))
      (filled alternatives (by simp [Formula.atoms])) found
    exact ⟨pieces, divides, .lower (by decide) spells⟩
  | join connective left right leftIh rightIh =>
    simp only [Readable, Filled, Formula.atoms, List.mem_append, or_imp, forall_and]
      at readable filled
    obtain ⟨left', right', onLeft, onRight, rfl⟩ := Formula.substitute?_join_eq_some.1 found
    obtain ⟨before, first, spells⟩ := leftIh readable.1 filled.1 onLeft
    obtain ⟨after, second, spells'⟩ := rightIh readable.2 filled.2 onRight
    have is : Piece.ofToken? (.word connective.word.toList) =
        some (.connective connective : Piece (Test Nat)) := by
      cases connective <;> decide
    have weak := connective.strength_lt
    have joined : Spells connective.strength (.join connective left' right')
        (before ++ .connective connective :: after) :=
      .join connective (.lower (by omega) spells) (.lower weak spells')
    have divided := (first.append is second).group
    rw [List.append_assoc, List.cons_append] at divided
    exact ⟨_, divided, .lower (by decide) (.group (.lower connective.strength_pos joined))⟩
  | negation inner ih =>
    obtain ⟨inner', inside, rfl⟩ := Formula.substitute?_negation_eq_some.1 found
    obtain ⟨pieces, divides, spells⟩ := ih readable filled inside
    have group : Spells 3 inner' (.opening :: (pieces ++ [.closing])) :=
      .lower (by decide) (.group (.lower (by decide) spells))
    exact ⟨_, divides.group.cons (by decide), .negation group⟩

theorem Filled.number {ν : Type} {condition : Condition ν} (filled : condition.Filled) (first : Nat) :
    (condition.number first).Filled := by
  intro numbered inside predicate member
  obtain ⟨alternatives, here, original, found, before, _, rfl, _⟩ := exists_number inside member
  have some := List.length_pos_iff.2 (filled alternatives here original found)
  rw [Predicate.Filled, Predicate.operands_number, ← List.length_pos_iff, List.length_range']
  exact some

end Condition

/-- The text of a statement is read as the tree of its numbered condition. -/
theorem readCondition?_ofCondition {condition : Condition String} (readable : condition.Readable)
    (filled : condition.Filled) {tree : Formula (Test Nat)}
    (found : (condition.number 1).tree? = some tree) :
    readCondition? (Statement.ofCondition condition).text = some tree := by
  obtain ⟨pieces, divides, spells⟩ :=
    Condition.exists_pieces (readable.number 1) (filled.number 1) found
  have divided : pieces? (condition.number 1).tokens = some pieces := by
    have alone := divides [] (by simp)
    simpa [pieces?] using alone
  exact readCondition?_eq_some_iff.2 ⟨_, pieces, scan?_ofCondition readable, divided,
    .lower (by decide) spells⟩

end SearchBox.Sql
