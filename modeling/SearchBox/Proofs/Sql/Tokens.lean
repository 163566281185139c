import SearchBox.Proofs.Formula
import SearchBox.Proofs.Sql.Scan
import SearchBox.Sql.TextSearch

/-! The tokens of predicates and conditions. What is written for a predicate on a quoted column is
cut into exactly these tokens, whatever the names of columns and configurations are. -/

namespace SearchBox.Sql

def castTokens : FieldType → List SqlToken
  | .string => []
  | .number => [.cast, .word "numeric".toList]
  | .date => [.cast, .word "date".toList]
  | .boolean => [.cast, .word "boolean".toList]

def typedTokens (type : FieldType) (number : Nat) : List SqlToken :=
  .placeholder number :: castTokens type

/-- The tokens of a column given by its SQL text. -/
def columnTokens (column : String) : List SqlToken :=
  (scan? column).getD []

theorem mem_columnTokens {column : String} (quoted : ∃ name, column = quoteIdentifier name)
    {token : SqlToken} (member : token ∈ columnTokens column) :
    (∃ text, token = .identifier text) ∨ token = .symbol '.' := by
  obtain ⟨name, rfl⟩ := quoted
  rw [columnTokens, Scan.scan?_quoteIdentifier] at member
  exact Scan.mem_nameTokens member

namespace Predicate

variable {ν : Type}

def column : Predicate ν → String
  | pattern column _ | fullText column _ _ _ | ranked column _ | equals column _ _
  | bound column _ _ _ | between column _ _ _ | member column _ _ => column

/-- The configuration that is written in a string. -/
def configuration? : Predicate ν → Option String
  | fullText _ configuration _ _ => some configuration
  | _ => none

/-- The type that operands are cast to. -/
def type? : Predicate ν → Option FieldType
  | equals _ type _ | bound _ _ type _ | between _ type _ _ | member _ type _ => some type
  | _ => none

/-- Whether values are compared by order. -/
def comparesOrder : Predicate ν → Bool
  | bound _ _ _ _ | between _ _ _ _ => true
  | _ => false

@[simp] theorem column_number (first : Nat) (predicate : Predicate ν) :
    (predicate.number first).column = predicate.column := by
  cases predicate <;> rfl

@[simp] theorem configuration?_number (first : Nat) (predicate : Predicate ν) :
    (predicate.number first).configuration? = predicate.configuration? := by
  cases predicate <;> rfl

@[simp] theorem type?_number (first : Nat) (predicate : Predicate ν) :
    (predicate.number first).type? = predicate.type? := by
  cases predicate <;> rfl

@[simp] theorem comparesOrder_number (first : Nat) (predicate : Predicate ν) :
    (predicate.number first).comparesOrder = predicate.comparesOrder := by
  cases predicate <;> rfl

def tokens : Predicate Nat → List SqlToken
  | pattern column operand => columnTokens column ++ [.word "ILIKE".toList, .placeholder operand]
  | fullText column configuration reading operand =>
    [.word "to_tsvector".toList, .symbol '(', .string configuration.toList, .symbol ','] ++
      (columnTokens column ++ [.symbol ')', .operator "@@".toList, .word reading.function.toList,
        .symbol '(', .string configuration.toList, .symbol ',', .placeholder operand, .symbol ')'])
  | ranked column operand => columnTokens column ++ [.operator "@@@".toList, .placeholder operand]
  | equals column type operand =>
    columnTokens column ++ .operator "=".toList :: typedTokens type operand
  | bound column comparison type operand =>
    columnTokens column ++ .operator comparison.symbol.toList :: typedTokens type operand
  | between column type low high =>
    columnTokens column ++ .word "BETWEEN".toList ::
      (typedTokens type low ++ .word "AND".toList :: typedTokens type high)
  | member column type operands =>
    columnTokens column ++ .word "IN".toList :: .symbol '(' ::
      ([SqlToken.symbol ','].intercalate (operands.map (typedTokens type)) ++ [.symbol ')'])

/-- The column is a quoted name, and a configuration can stand in a string. -/
structure Readable (predicate : Predicate ν) : Prop where
  quoted : ∃ name, predicate.column = quoteIdentifier name
  configured : ∀ configuration, predicate.configuration? = some configuration →
    '\'' ∉ configuration.toList

theorem Readable.number {predicate : Predicate ν} (readable : predicate.Readable) (first : Nat) :
    (predicate.number first).Readable := by
  constructor
  · rw [column_number]
    exact readable.quoted
  · rw [configuration?_number]
    exact readable.configured

end Predicate

theorem quote_notMem_of_isConfigurationName {name : List Char}
    (valid : isConfigurationName name = true) : '\'' ∉ name := by
  intro inside
  simp only [isConfigurationName, Bool.and_eq_true, List.all_eq_true] at valid
  have char := valid.2 _ inside
  simp at char

namespace Scan

theorem emits_word {text : List Char} (tokens : List SqlToken) (word : List Char)
    (read : ∀ done rest,
      from? done .between (text ++ rest) = from? (tokens.reverse ++ done) (.word word) rest) :
    Emits text (tokens ++ [.word word]) := by
  intro done rest stops
  rw [read, from?_of_stops rfl stops]
  simp

theorem emits_cast (type : FieldType) : Emits (castText type).toList (castTokens type) := by
  cases type with
  | string => exact fun _ _ _ => rfl
  | number => exact emits_word [.cast] "numeric".toList fun _ _ => rfl
  | date => exact emits_word [.cast] "date".toList fun _ _ => rfl
  | boolean => exact emits_word [.cast] "boolean".toList fun _ _ => rfl

theorem emits_typed (type : FieldType) (number : Nat) :
    Emits (writeTyped type number) (typedTokens type number) := by
  cases type with
  | string =>
    have plain : writeTyped .string number = writePlaceholder number := List.append_nil _
    rw [plain]
    exact emits_placeholder number
  | _ => exact (emits_placeholder number).append (fun _ => Stops.colon _) (emits_cast _)

theorem emits_column {column : String} (quoted : ∃ name, column = quoteIdentifier name) :
    Emits column.toList (columnTokens column) := by
  obtain ⟨name, rfl⟩ := quoted
  rw [columnTokens, scan?_quoteIdentifier]
  exact emits_quoteIdentifier name

theorem cuts_comma : Cuts ", ".toList [.symbol ','] :=
  fun _ _ => rfl

theorem cuts_leftParen : Cuts ['('] [.symbol '('] :=
  fun _ rest => from?_symbol _ '(' rest

theorem emits_rightParen : Emits [')'] [.symbol ')'] :=
  fun _ rest _ => from?_symbol _ ')' rest

/-- A column with the sign of an operation behind it. -/
theorem emits_operation {column : String} (quoted : ∃ name, column = quoteIdentifier name)
    {sign operand : List Char} {signTokens operandTokens : List SqlToken}
    (cuts : Cuts (' ' :: sign) signTokens) (emits : Emits operand operandTokens) :
    Emits (column.toList ++ ' ' :: (sign ++ operand))
      (columnTokens column ++ (signTokens ++ operandTokens)) :=
  (emits_column quoted).append (fun _ => Stops.blank _) (cuts.append emits)

theorem emits_fullText {column configuration : String}
    (quoted : ∃ name, column = quoteIdentifier name) (noQuote : '\'' ∉ configuration.toList)
    (reading : QueryReading) (operand : Nat) :
    Emits (Predicate.fullText column configuration reading operand).write
      (Predicate.fullText column configuration reading operand).tokens := by
  have inString := emits_string noQuote
  have opening : Cuts "to_tsvector(".toList [.word "to_tsvector".toList, .symbol '('] :=
    fun done rest => from?_symbol (.word "to_tsvector".toList :: done) '(' rest
  have middle : Cuts (") @@ ".toList) [.symbol ')', .operator "@@".toList] := fun _ _ => rfl
  have function : Cuts (reading.function.toList ++ ['(']) [.word reading.function.toList,
      .symbol '('] := by
    cases reading <;> exact fun done rest => from?_symbol (.word _ :: done) '(' rest
  have text : (Predicate.fullText column configuration reading operand).write =
      "to_tsvector(".toList ++ ('\'' :: (configuration.toList ++ ['\'']) ++ (", ".toList ++
        (column.toList ++ (") @@ ".toList ++ (reading.function.toList ++ ['('] ++
          ('\'' :: (configuration.toList ++ ['\'']) ++ (", ".toList ++
            (writePlaceholder operand ++ [')'])))))))) := by
    show "to_tsvector('".toList ++ configuration.toList ++ "', ".toList ++ column.toList ++
      ") @@ ".toList ++ reading.function.toList ++ "('".toList ++ configuration.toList ++
      "', ".toList ++ writePlaceholder operand ++ [')'] = _
    simp
  rw [text]
  have query := function.append (inString.append (fun _ => Stops.comma _) (cuts_comma.append
    ((emits_placeholder operand).append (fun _ => Stops.rightParen _) emits_rightParen)))
  have searched := (emits_column quoted).append (fun _ => Stops.rightParen _) (middle.append query)
  exact opening.append (inString.append (fun _ => Stops.comma _) (cuts_comma.append searched))

/-- A predicate is cut into its own tokens. -/
theorem emits_predicate {predicate : Predicate Nat} (readable : predicate.Readable) :
    Emits predicate.write predicate.tokens := by
  obtain ⟨quoted, configured⟩ := readable
  cases predicate with
  | pattern column operand =>
    have sign : Cuts " ILIKE ".toList [.word "ILIKE".toList] := fun _ _ => rfl
    have text : (Predicate.pattern column operand).write =
        column.toList ++ (" ILIKE ".toList ++ writePlaceholder operand) := List.append_assoc _ _ _
    rw [text]
    exact emits_operation quoted sign (emits_placeholder operand)
  | ranked column operand =>
    have sign : Cuts " @@@ ".toList [.operator "@@@".toList] := fun _ _ => rfl
    have text : (Predicate.ranked column operand).write =
        column.toList ++ (" @@@ ".toList ++ writePlaceholder operand) := List.append_assoc _ _ _
    rw [text]
    exact emits_operation quoted sign (emits_placeholder operand)
  | equals column type operand =>
    have sign : Cuts " = ".toList [.operator "=".toList] := fun _ _ => rfl
    have text : (Predicate.equals column type operand).write =
        column.toList ++ (" = ".toList ++ writeTyped type operand) := List.append_assoc _ _ _
    rw [text]
    exact emits_operation quoted sign (emits_typed type operand)
  | bound column comparison type operand =>
    have sign : Cuts (' ' :: (comparison.symbol.toList ++ [' ']))
        [.operator comparison.symbol.toList] := by
      cases comparison <;> exact fun _ _ => rfl
    have text : (Predicate.bound column comparison type operand).write = column.toList ++
        ' ' :: (comparison.symbol.toList ++ [' '] ++ writeTyped type operand) := by
      show column.toList ++ ' ' :: comparison.symbol.toList ++ ' ' :: writeTyped type operand = _
      simp
    rw [text]
    exact emits_operation quoted sign (emits_typed type operand)
  | between column type low high =>
    have sign : Cuts " BETWEEN ".toList [.word "BETWEEN".toList] := fun _ _ => rfl
    have middle : Cuts " AND ".toList [.word "AND".toList] := fun _ _ => rfl
    have text : (Predicate.between column type low high).write = column.toList ++
        (" BETWEEN ".toList ++ (writeTyped type low ++ (" AND ".toList ++ writeTyped type high))) := by
      show column.toList ++ " BETWEEN ".toList ++ writeTyped type low ++ " AND ".toList ++
        writeTyped type high = _
      simp only [List.append_assoc]
    rw [text]
    exact emits_operation quoted sign ((emits_typed type low).append (fun _ => Stops.blank _)
      (middle.append (emits_typed type high)))
  | member column type operands =>
    have sign : Cuts " IN (".toList [.word "IN".toList, .symbol '('] :=
      fun done rest => from?_symbol (.word "IN".toList :: done) '(' rest
    have items := emits_intercalate cuts_comma (fun rest => Stops.comma (' ' :: rest))
      fun operand (_ : operand ∈ operands) => emits_typed type operand
    have text : (Predicate.member column type operands).write = column.toList ++
        (" IN (".toList ++ (", ".toList.intercalate (operands.map (writeTyped type)) ++ [')'])) := by
      show column.toList ++ " IN (".toList ++ ", ".toList.intercalate
        (operands.map (writeTyped type)) ++ [')'] = _
      simp only [List.append_assoc]
    rw [text]
    exact emits_operation quoted sign (items.append (fun _ => Stops.rightParen _) emits_rightParen)
  | fullText column configuration reading operand =>
    exact emits_fullText quoted (configured configuration rfl) reading operand

end Scan

namespace Condition

/-- Every predicate of the condition is readable. -/
def Readable {ν : Type} (condition : Condition ν) : Prop :=
  ∀ alternatives ∈ condition.atoms, ∀ predicate ∈ alternatives, predicate.Readable

def alternativesTokens : List (Predicate Nat) → List SqlToken
  | [single] => single.tokens
  | several => .symbol '(' ::
      ([SqlToken.word "OR".toList].intercalate (several.map Predicate.tokens) ++ [.symbol ')'])

def tokens : Condition Nat → List SqlToken
  | .atom alternatives => alternativesTokens alternatives
  | .join connective left right => .symbol '(' ::
      (tokens left ++ .word connective.word.toList :: (tokens right ++ [.symbol ')']))
  | .negation inner => .word "NOT".toList :: .symbol '(' :: (tokens inner ++ [.symbol ')'])

end Condition

namespace Scan

theorem emits_alternatives {alternatives : List (Predicate Nat)}
    (readable : ∀ predicate ∈ alternatives, predicate.Readable) :
    Emits (Condition.writeAlternatives alternatives)
      (Condition.alternativesTokens alternatives) := by
  have mark : Cuts " OR ".toList [.word "OR".toList] := fun _ _ => rfl
  have items := emits_intercalate mark (fun rest => Stops.blank ("OR ".toList ++ rest))
    fun predicate member => emits_predicate (readable predicate member)
  have several := cuts_leftParen.append (items.append (fun _ => Stops.rightParen _) emits_rightParen)
  match alternatives with
  | [] => exact several
  | [single] => exact emits_predicate (readable single (by simp))
  | _ :: _ :: _ => exact several

/-- The text of a condition is cut into its own tokens. -/
theorem emits_condition {condition : Condition Nat} (readable : condition.Readable) :
    Emits condition.write condition.tokens := by
  induction condition with
  | atom alternatives =>
    rw [Condition.write, Formula.write_atom]
    exact emits_alternatives (readable alternatives (by simp [Formula.atoms]))
  | join connective left right leftIh rightIh =>
    simp only [Condition.Readable, Formula.atoms, List.mem_append, or_imp, forall_and] at readable
    have mark : Cuts (' ' :: (connective.word.toList ++ [' '])) [.word connective.word.toList] := by
      cases connective <;> exact fun _ _ => rfl
    have text : Condition.write (.join connective left right) = ['('] ++
        (Condition.write left ++ (' ' :: (connective.word.toList ++ [' ']) ++
          (Condition.write right ++ [')']))) := by
      have whole := Formula.write_join Condition.writeAlternatives connective left right []
      rw [List.append_nil] at whole
      rw [Condition.write, whole]
      simp [Condition.write]
    rw [text]
    exact cuts_leftParen.append ((leftIh readable.1).append (fun _ => Stops.blank _)
      (mark.append ((rightIh readable.2).append (fun _ => Stops.rightParen _) emits_rightParen)))
  | negation inner ih =>
    have opening : Cuts "NOT (".toList [.word "NOT".toList, .symbol '('] :=
      fun done rest => from?_symbol (.word "NOT".toList :: done) '(' rest
    have text : Condition.write (.negation inner) =
        "NOT (".toList ++ (Condition.write inner ++ [')']) := by
      have whole := Formula.write_negation Condition.writeAlternatives inner []
      rw [List.append_nil] at whole
      rw [Condition.write, whole]
      simp [Condition.write]
    rw [text]
    exact opening.append ((ih readable).append (fun _ => Stops.rightParen _) emits_rightParen)

end Scan

end SearchBox.Sql
