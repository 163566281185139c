import SearchBox.Proofs.Sql.Compile
import SearchBox.Proofs.Sql.Rereading
import SearchBox.Proofs.Validity

/-! The meaning of a statement. An expression asks for a formula over tests on columns; a statement
that it is compiled to is read as this formula, with the values in the places where they are bound. -/

namespace SearchBox

namespace Sql

/-! What an expression asks for, told without any SQL text. -/

/-- A column by its name, whose parts are separated by dots. -/
def Term.named {ν : Type} (name : String) : Term ν :=
  .column (name.toList.splitOn '.')

/-- The test that looks for a text in a column; in a full-text match `function` reads the text. -/
def Options.searchTest (options : Options) (function operand column : String) : Test String :=
  match options.searchType with
  | .ilike => .like (.plain (.named column)) (.plain (.parameter operand))
  | .tsvector => .operation "@@".toList
      (.call "to_tsvector".toList (.string options.configuration.toList) (.named column))
      (.call function.toList (.string options.configuration.toList) (.parameter operand))
  | .paradedb => .operation "@@@".toList (.plain (.named column)) (.plain (.parameter operand))

def Options.termTest (options : Options) (text column : String) : Test String :=
  options.searchTest "plainto_tsquery" (options.searchType.termOperand text) column

/-- A beginning without any word is matched like a whole word. -/
def Options.stemTest (options : Options) (stem column : String) : Test String :=
  let function := if (stemQuery? stem.toList).isSome then "to_tsquery" else "plainto_tsquery"
  options.searchTest function (options.searchType.stemOperand stem) column

/-- The test holds of one of the distinct columns. -/
def anyColumn? (columns : List String) (test : (column : String) → Test String) :
    Option (Formula (Test String)) :=
  match columns.eraseDups with
  | [] => none
  | first :: others => some (.anyOf (test first) (others.map test))

end Sql

open Sql

/-- The test holds of the column that is declared for the field. -/
def Schema.fieldTest? (schema : Schema) (field : Field)
    (test : (column : Scalar String) → FieldType → Test String) : Option (Formula (Test String)) :=
  (schema.lookup? field.name).map fun declaration =>
    .atom (test (.plain (.named declaration.name)) declaration.type)

def Clause.meaning? (options : Options) (schema : Schema) (columns : List String) :
    Clause Field String → Option (Formula (Test String))
  | .term value => anyColumn? columns (options.termTest value)
  | .wildcard stem _ => anyColumn? columns (options.stemTest stem)
  | .equals field value => schema.fieldTest? field fun column type =>
      .operation "=".toList column (.typed type value)
  | .range field (.bound comparison) value _ => schema.fieldTest? field fun column type =>
      .operation comparison.symbol.toList column (.typed type value)
  | .range field .between low (some high) => schema.fieldTest? field fun column type =>
      .between column (.typed type low) (.typed type high)
  | .range field .between low none => schema.fieldTest? field fun column type =>
      .operation ">=".toList column (.typed type low)
  | .member field values => schema.fieldTest? field fun column type =>
      .member column (values.map (Scalar.typed type))

/-- The formula that an expression asks for; there is none if a field is not declared, or if there is
no column to search. -/
def Expression.meaning? (options : Options) (schema : Schema) (columns : List String)
    (expression : Expression) : Option (Formula (Test String)) :=
  expression.substitute? (Clause.meaning? options schema columns)

namespace Sql

/-- The value that a placeholder stands for; the first one has the number one. -/
def valueOf? (values : List String) : Nat → Option String
  | 0 => none
  | number + 1 => values[number]?

/-- The condition that a statement stands for, with the values where they are bound. -/
def Statement.read? (statement : Statement) : Option (Formula (Test (Option String))) :=
  (readCondition? statement.text).map (Formula.map (Test.map (valueOf? statement.values)))

/-! Numbered operands find their values again. -/

section Numbers

variable {ν μ : Type} {lookup : Nat → μ} {change : ν → μ}

/-- The numbers from `first` on stand for the changed operands. -/
def Numbered (lookup : Nat → μ) (change : ν → μ) (first : Nat) (operands : List ν) : Prop :=
  (List.range' first operands.length).map lookup = operands.map change

theorem Numbered.append_iff {first : Nat} {operands later : List ν} :
    Numbered lookup change first (operands ++ later) ↔ Numbered lookup change first operands ∧
      Numbered lookup change (first + operands.length) later := by
  unfold Numbered
  rw [List.length_append, ← List.range'_append_1, List.map_append, List.map_append]
  constructor
  · intro same
    exact List.append_inj same (by simp)
  · rintro ⟨here, there⟩
    rw [here, there]

theorem Predicate.map_number {first : Nat} {predicate : Predicate ν}
    (numbered : Numbered lookup change first predicate.operands) :
    (predicate.number first).map lookup = predicate.map change := by
  cases predicate with
  | member column type operands => exact congrArg (Predicate.member column type) numbered
  | _ => simp_all [Numbered, operands, number, Predicate.map, List.range']

namespace Condition

theorem map_numberAlternatives {first : Nat} {alternatives : List (Predicate ν)}
    (numbered : Numbered lookup change first (alternatives.flatMap Predicate.operands)) :
    (numberAlternatives first alternatives).map (Predicate.map lookup) =
      alternatives.map (Predicate.map change) := by
  induction alternatives generalizing first with
  | nil => rfl
  | cons predicate later ih =>
    rw [List.flatMap_cons, Numbered.append_iff] at numbered
    rw [numberAlternatives, List.map_cons, List.map_cons, Predicate.map_number numbered.1,
      ih numbered.2]

/-- Looking up the numbers of a condition gives its operands back. -/
theorem mapOperands_number {first : Nat} {condition : Condition ν}
    (numbered : Numbered lookup change first condition.operands) :
    (condition.number first).mapOperands lookup = condition.mapOperands change := by
  induction condition generalizing first with
  | atom alternatives =>
    have here : Numbered lookup change first (alternatives.flatMap Predicate.operands) := by
      simpa [operands, Formula.atoms] using numbered
    exact congrArg Formula.atom (map_numberAlternatives here)
  | join connective left right leftIh rightIh =>
    have parts : operands (.join connective left right) = operands left ++ operands right := by
      simp [operands, Formula.atoms]
    rw [parts, Numbered.append_iff, ← operandCount_eq] at numbered
    exact congrArg₂ (Formula.join connective) (leftIh numbered.1) (rightIh numbered.2)
  | negation inner ih => exact congrArg Formula.negation (ih numbered)

/-- A change of the operands shows in the tree. -/
theorem tree?_mapOperands (change : ν → μ) (condition : Condition ν) :
    (condition.mapOperands change).tree? = condition.tree?.map (Formula.map (Test.map change)) := by
  rw [tree?, tree?, mapOperands, Formula.substitute?_map, Formula.map_substitute?]
  congr 1
  funext alternatives
  cases alternatives with
  | nil => rfl
  | cons first others =>
    simp [alternativesTree?, Formula.map_anyOf, Predicate.test_map, Function.comp_def]

end Condition

theorem numbered_valueOf? (values : List String) : Numbered (valueOf? values) some 1 values := by
  apply List.ext_getElem
  · simp
  · intro index within within'
    rw [List.length_map, List.length_range'] at within
    have number : 1 + 1 * index = index + 1 := by omega
    rw [List.getElem_map, List.getElem_range', List.getElem_map, number, valueOf?,
      List.getElem?_eq_getElem within]

end Numbers

/-- A statement is read as the tree of the condition that it is made from. -/
theorem Statement.read?_ofCondition {condition : Condition String} (readable : condition.Readable)
    (filled : condition.Filled) {tree : Formula (Test String)} (found : condition.tree? = some tree) :
    (Statement.ofCondition condition).read? = some (tree.map (Test.map some)) := by
  have bound : ((condition.number 1).tree?).map
      (Formula.map (Test.map (valueOf? condition.operands))) = some (tree.map (Test.map some)) := by
    rw [← Condition.tree?_mapOperands, Condition.mapOperands_number (numbered_valueOf? _),
      Condition.tree?_mapOperands, found, Option.map_some]
  obtain ⟨numbered, whole, same⟩ := Option.map_eq_some_iff.1 bound
  rw [read?, readCondition?_ofCondition readable filled whole, Option.map_some, ← same]
  rfl

/-! Clauses are compiled to the tests that they ask for. -/

theorem identifiers_partTokens (parts : List (List Char)) :
    (Scan.partTokens parts).filterMap SqlToken.identifier? = parts := by
  induction parts with
  | nil => rfl
  | cons part parts ih =>
    cases parts with
    | nil => rfl
    | cons next parts =>
      have joined : Scan.partTokens (part :: next :: parts) =
          .identifier part :: .symbol '.' :: Scan.partTokens (next :: parts) :=
        List.intercalate_cons_cons
      rw [joined]
      exact congrArg (part :: ·) ih

/-- A quoted name is read as the name. -/
theorem Term.ofColumn_quoteIdentifier {ν : Type} (name : String) :
    (ofColumn (quoteIdentifier name) : Term ν) = named name := by
  rw [ofColumn, columnTokens, Scan.scan?_quoteIdentifier_parts, Option.getD_some,
    identifiers_partTokens, named]

/-- The searches of the options make the tests that the options ask for. -/
structure TextSearch.Meets (search : TextSearch) (options : Options) : Prop where
  term : ∀ column text,
    (search.term (quoteIdentifier column) text).test = options.termTest text column
  stem : ∀ column stem,
    (search.stem (quoteIdentifier column) stem).test = options.stemTest stem column

theorem TextSearch.meets_tsvector (configuration : String) :
    (tsvector configuration).Meets ⟨.tsvector, configuration⟩ := by
  have test (column operand : String) (reading : QueryReading) :
      (Predicate.fullText (quoteIdentifier column) configuration reading operand).test =
        Options.searchTest ⟨.tsvector, configuration⟩ reading.function operand column := by
    simp [Predicate.test, Options.searchTest, Term.ofColumn_quoteIdentifier]
  constructor
  · intro column text
    exact test column text .plainWords
  · intro column stem
    cases query : stemQuery? stem.toList with
    | none =>
      simp only [tsvector, Options.stemTest, SearchType.stemOperand, query]
      exact test column stem .plainWords
    | some words =>
      simp only [tsvector, Options.stemTest, SearchType.stemOperand, query]
      exact test column (String.ofList words) .operators

theorem TextSearch.meets_of_ofOptions {options : Options} {search : TextSearch}
    (found : ofOptions options = .ok search) : search.Meets options := by
  obtain ⟨type, configuration⟩ := options
  cases type with
  | ilike =>
    cases found
    constructor <;> intro column text <;>
      simp [ilike, Predicate.test, Options.termTest, Options.stemTest, Options.searchTest,
        Term.ofColumn_quoteIdentifier, SearchType.termOperand, SearchType.stemOperand]
  | paradedb =>
    cases found
    constructor <;> intro column text <;>
      simp [paradedb, Predicate.test, Options.termTest, Options.stemTest, Options.searchTest,
        Term.ofColumn_quoteIdentifier, SearchType.termOperand, SearchType.stemOperand]
  | tsvector =>
    simp only [ofOptions] at found
    split at found
    · cases found
      exact meets_tsvector configuration
    · cases found

namespace Target

variable {schema : Schema} {columns : List String} {search : TextSearch}
  {predicates : List (Predicate String)}

theorem anyColumn?_of_onAnyColumn {predicate : String → Predicate String}
    {test : String → Test String}
    (same : ∀ column, (predicate (quoteIdentifier column)).test = test column)
    (compiled : (of schema columns search).onAnyColumn predicate = .ok predicates) :
    ∃ tree, anyColumn? columns test = some tree ∧
      Condition.alternativesTree? predicates = some tree := by
  have distinct : (of schema columns search).columns = columns.eraseDups.map quoteIdentifier :=
    eraseDups_map (fun _ _ => Scan.quoteIdentifier_injective) columns
  rw [onAnyColumn, distinct] at compiled
  rw [anyColumn?]
  cases found : columns.eraseDups with
  | nil => simp [found] at compiled
  | cons first others =>
    simp only [found, List.map_cons, List.isEmpty_cons, Bool.false_eq_true, if_false,
      Except.ok.injEq] at compiled
    subst compiled
    refine ⟨_, rfl, ?_⟩
    simp [Condition.alternativesTree?, same, Function.comp_def]

theorem fieldTest?_of_onField {field : Field}
    {predicate : (column : String) → FieldType → Predicate String}
    {test : (column : Scalar String) → FieldType → Test String}
    (same : ∀ name type, (predicate (quoteIdentifier name) type).test =
      test (.plain (.named name)) type)
    (compiled : (of schema columns search).onField field predicate = .ok predicates) :
    ∃ tree, schema.fieldTest? field test = some tree ∧
      Condition.alternativesTree? predicates = some tree := by
  rw [onField] at compiled
  rw [Schema.fieldTest?]
  split at compiled
  · cases compiled
  · next declaration found =>
    cases compiled
    have declared : schema.lookup? field.name = some declaration := found
    refine ⟨_, congrArg (Option.map _) declared, ?_⟩
    rw [Condition.alternativesTree?, same]
    rfl

/-- What a clause is compiled to stands for what the clause means. -/
theorem meaning?_of_alternatives {options : Options} (meets : search.Meets options)
    {clause : Clause Field String}
    (compiled : (of schema columns search).alternatives clause = .ok predicates) :
    ∃ tree, clause.meaning? options schema columns = some tree ∧
      Condition.alternativesTree? predicates = some tree := by
  have column (name : String) : (Scalar.plain (.ofColumn (quoteIdentifier name)) : Scalar String) =
      .plain (.named name) :=
    congrArg Scalar.plain (Term.ofColumn_quoteIdentifier name)
  cases clause with
  | term value => exact anyColumn?_of_onAnyColumn (fun name => meets.term name value) compiled
  | wildcard stem quoted =>
    exact anyColumn?_of_onAnyColumn (fun name => meets.stem name stem) compiled
  | equals field value =>
    rw [alternatives] at compiled
    rw [Clause.meaning?]
    refine fieldTest?_of_onField (fun name type => ?_) compiled
    rw [Predicate.test, column]
  | member field values =>
    rw [alternatives] at compiled
    rw [Clause.meaning?]
    refine fieldTest?_of_onField (fun name type => ?_) compiled
    rw [Predicate.test, column]
  | range field operator value upper =>
    rw [alternatives] at compiled
    cases operator with
    | bound comparison =>
      rw [Clause.meaning?]
      refine fieldTest?_of_onField (fun name type => ?_) compiled
      rw [rangePredicate, Predicate.test, column]
    | between =>
      cases upper with
      | none =>
        rw [Clause.meaning?]
        refine fieldTest?_of_onField (fun name type => ?_) compiled
        rw [rangePredicate, Predicate.test, column]
        rfl
      | some upper =>
        rw [Clause.meaning?]
        refine fieldTest?_of_onField (fun name type => ?_) compiled
        rw [rangePredicate, Predicate.test, column]

theorem filled_of_alternatives {type : SearchType} (encodes : search.Encodes type)
    {clause : Clause Field String} (filled : clause.Filled)
    (compiled : (of schema columns search).alternatives clause = .ok predicates) :
    ∀ predicate ∈ predicates, predicate.Filled := by
  have searching {predicate : Predicate String} {column operand : String}
      (searches : predicate.Searches column operand) : predicate.Filled := by
    rw [Predicate.Filled, searches.operands_eq]
    simp
  cases clause with
  | term value =>
    exact forall_of_onAnyColumn compiled fun column => searching (encodes.term column value)
  | wildcard stem quoted =>
    exact forall_of_onAnyColumn compiled fun column => searching (encodes.stem column stem)
  | equals field value =>
    rw [alternatives] at compiled
    exact forall_of_onField compiled fun _ _ => List.cons_ne_nil _ _
  | member field values =>
    rw [alternatives] at compiled
    exact forall_of_onField compiled fun _ _ => filled
  | range field operator value upper =>
    rw [alternatives] at compiled
    refine forall_of_onField compiled fun column type => ?_
    cases operator <;> cases upper <;> exact List.cons_ne_nil _ _

end Target

theorem filled_of_mapExcept {schema : Schema} {columns : List String} {search : TextSearch}
    {type : SearchType} (encodes : search.Encodes type) {expression : Expression}
    (filled : ∀ clause ∈ expression.atoms, clause.Filled) {condition : Condition String}
    (mapped : expression.mapExcept (Target.of schema columns search).alternatives = .ok condition) :
    condition.Filled := by
  refine Formula.forall_of_forall₂ (Formula.forall₂_of_mapExcept mapped) ?_
  intro clause member _ made
  exact Target.filled_of_alternatives encodes (filled clause member) made

/-- Where an expression is compiled, its lists having values, the text of the statement is read to its
end by the precedence of the database, as the formula that the expression asks for: with the same
joins and negations, one test on the declared column for a clause on a field, and for any other clause
the disjunction of one test for each of the distinct columns. -/
theorem compile_meaning {options : Options} {schema : Schema} {columns : List String}
    {expression : Expression} (filled : ∀ clause ∈ expression.atoms, clause.Filled)
    {statement : Statement}
    (compiled : compile options schema columns expression = .ok statement) :
    ∃ meaning, expression.meaning? options schema columns = some meaning ∧
      statement.read? = some (meaning.map (Test.map some)) := by
  obtain ⟨search, condition, found, mapped, rfl⟩ := compile_eq_ok.1 compiled
  have encodes := TextSearch.encodes_of_ofOptions found
  have meets := TextSearch.meets_of_ofOptions found
  obtain ⟨meaning, asked, tree⟩ := Formula.substitute?_of_mapExcept mapped
    fun clause _ _ made => Target.meaning?_of_alternatives meets made
  exact ⟨meaning, asked, Statement.read?_ofCondition (readable_of_mapExcept encodes mapped)
    (filled_of_mapExcept encodes filled mapped) tree⟩

theorem compile_meaning_mixed : ∃ (expression : Expression) (statement : Statement),
    (∀ clause ∈ expression.atoms, clause.Filled) ∧
    compile ⟨.ilike, "english"⟩ ⟨[⟨"price", .number⟩]⟩ ["t.a\"b", "c", "t.a\"b"] expression =
      .ok statement ∧
    statement.text = "(NOT ((\"t\".\"a\"\"b\" ILIKE $1 OR \"c\" ILIKE $2)) OR " ++
      "(\"price\" BETWEEN $3::numeric AND $4::numeric AND \"price\" IN ($5::numeric)))" ∧
    statement.read? = some (.join .or
      (.negation (.join .or
        (.atom (.like (.plain (.column ["t".toList, "a\"b".toList]))
          (.plain (.parameter (some "so%")))))
        (.atom (.like (.plain (.column ["c".toList])) (.plain (.parameter (some "so%")))))))
      (.join .and
        (.atom (.between (.plain (.column ["price".toList]))
          (.cast (.parameter (some "1")) "numeric".toList)
          (.cast (.parameter (some "2")) "numeric".toList)))
        (.atom (.member (.plain (.column ["price".toList]))
          [.cast (.parameter (some "7")) "numeric".toList])))) := by
  let expression : Expression := .join .or (.negation (.atom (.wildcard "so" false)))
    (.join .and (.atom (.range ⟨"Price", none⟩ .between "1" (some "2")))
      (.atom (.member ⟨"PRICE", none⟩ ["7"])))
  have filled : ∀ clause ∈ expression.atoms, clause.Filled := by
    simp [expression, Formula.atoms, Clause.Filled]
  have compiled : compile ⟨.ilike, "english"⟩ ⟨[⟨"price", .number⟩]⟩ ["t.a\"b", "c", "t.a\"b"]
      expression = .ok ⟨"(NOT ((\"t\".\"a\"\"b\" ILIKE $1 OR \"c\" ILIKE $2)) OR " ++
        "(\"price\" BETWEEN $3::numeric AND $4::numeric AND \"price\" IN ($5::numeric)))",
          ["so%", "so%", "1", "2", "7"]⟩ := by
    decide +kernel
  obtain ⟨meaning, asked, read⟩ := compile_meaning filled compiled
  have known : expression.meaning? ⟨.ilike, "english"⟩ ⟨[⟨"price", .number⟩]⟩
      ["t.a\"b", "c", "t.a\"b"] = some (.join .or
        (.negation (.join .or
          (.atom (.like (.plain (.column ["t".toList, "a\"b".toList])) (.plain (.parameter "so%"))))
          (.atom (.like (.plain (.column ["c".toList])) (.plain (.parameter "so%"))))))
        (.join .and
          (.atom (.between (.plain (.column ["price".toList]))
            (.cast (.parameter "1") "numeric".toList) (.cast (.parameter "2") "numeric".toList)))
          (.atom (.member (.plain (.column ["price".toList]))
            [.cast (.parameter "7") "numeric".toList])))) := by
    decide +kernel
  rw [known, Option.some.injEq] at asked
  subst asked
  exact ⟨expression, _, filled, compiled, rfl, read⟩

end Sql

end SearchBox
