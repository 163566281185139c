import SearchBox.Comparison
import SearchBox.Formula
import SearchBox.Schema

/-!
Predicates of PostgreSQL and their text. The operands of a predicate are kept apart from the words
around them: first they are the values to compare with, then the numbers of the placeholders that
stand for these values. So no value can become part of the text.
-/

namespace SearchBox.Sql

/-- How the database reads the query of a full-text match: as plain words, or with operators. -/
inductive QueryReading where
  | plainWords
  | operators
  deriving DecidableEq, Repr

def QueryReading.function : QueryReading → String
  | .plainWords => "plainto_tsquery"
  | .operators => "to_tsquery"

/-- A condition on one column, given by its SQL text, with operands of type `ν`. -/
inductive Predicate (ν : Type) where
  | pattern (column : String) (operand : ν)
  | fullText (column configuration : String) (reading : QueryReading) (operand : ν)
  | ranked (column : String) (operand : ν)
  | equals (column : String) (type : FieldType) (operand : ν)
  | bound (column : String) (comparison : Comparison) (type : FieldType) (operand : ν)
  | between (column : String) (type : FieldType) (low high : ν)
  | member (column : String) (type : FieldType) (operands : List ν)
  deriving DecidableEq, Repr

namespace Predicate

variable {ν : Type}

/-- The operands in the order of the text. -/
def operands : Predicate ν → List ν
  | pattern _ operand | fullText _ _ _ operand | ranked _ operand | equals _ _ operand
  | bound _ _ _ operand => [operand]
  | between _ _ low high => [low, high]
  | member _ _ operands => operands

/-- The predicate with its operands numbered from `first` on. -/
def number (first : Nat) : Predicate ν → Predicate Nat
  | pattern column _ => pattern column first
  | fullText column configuration reading _ => fullText column configuration reading first
  | ranked column _ => ranked column first
  | equals column type _ => equals column type first
  | bound column comparison type _ => bound column comparison type first
  | between column type _ _ => between column type first (first + 1)
  | member column type operands => member column type (List.range' first operands.length)

end Predicate

/-- The cast that gives a value the type of its field. -/
def castText : FieldType → String
  | .string => ""
  | .number => "::numeric"
  | .date => "::date"
  | .boolean => "::boolean"

def writePlaceholder (number : Nat) : List Char :=
  '$' :: Nat.toDigits 10 number

def writeTyped (type : FieldType) (number : Nat) : List Char :=
  writePlaceholder number ++ (castText type).toList

def Predicate.write : Predicate Nat → List Char
  | pattern column operand => column.toList ++ " ILIKE ".toList ++ writePlaceholder operand
  | fullText column configuration reading operand =>
    "to_tsvector('".toList ++ configuration.toList ++ "', ".toList ++ column.toList ++
      ") @@ ".toList ++ reading.function.toList ++ "('".toList ++ configuration.toList ++
      "', ".toList ++ writePlaceholder operand ++ [')']
  | ranked column operand => column.toList ++ " @@@ ".toList ++ writePlaceholder operand
  | equals column type operand => column.toList ++ " = ".toList ++ writeTyped type operand
  | bound column comparison type operand =>
    column.toList ++ ' ' :: comparison.symbol.toList ++ ' ' :: writeTyped type operand
  | between column type low high =>
    column.toList ++ " BETWEEN ".toList ++ writeTyped type low ++ " AND ".toList ++
      writeTyped type high
  | member column type operands =>
    column.toList ++ " IN (".toList ++ ", ".toList.intercalate (operands.map (writeTyped type)) ++
      [')']

/-- A formula over alternatives: each atom holds if one of its predicates does. -/
abbrev Condition (ν : Type) := Formula (List (Predicate ν))

namespace Condition

variable {ν : Type}

def operands (condition : Condition ν) : List ν :=
  condition.atoms.flatMap fun alternatives => alternatives.flatMap Predicate.operands

/-- How many operands there are. -/
def operandCount : Condition ν → Nat
  | .atom alternatives => (alternatives.flatMap Predicate.operands).length
  | .join _ left right => operandCount left + operandCount right
  | .negation inner => operandCount inner

def numberAlternatives (first : Nat) : List (Predicate ν) → List (Predicate Nat)
  | [] => []
  | predicate :: later =>
    predicate.number first :: numberAlternatives (first + predicate.operands.length) later

/-- The condition with its operands numbered from `first` on, from left to right. -/
def number (first : Nat) : Condition ν → Condition Nat
  | .atom alternatives => .atom (numberAlternatives first alternatives)
  | .join connective left right =>
    .join connective (number first left) (number (first + operandCount left) right)
  | .negation inner => .negation (number first inner)

/-- One predicate stands for itself; several stand in parentheses. -/
def writeAlternatives : List (Predicate Nat) → List Char
  | [single] => single.write
  | several => '(' :: (" OR ".toList.intercalate (several.map Predicate.write) ++ [')'])

def write (condition : Condition Nat) : List Char :=
  Formula.write writeAlternatives condition

end Condition

/-- Values bound so far; the value at index `i` belongs to placeholder `i + 1`. -/
structure Bindings where
  values : List String
  deriving DecidableEq, Repr

namespace Bindings

def empty : Bindings :=
  ⟨[]⟩

/-- The number of the next placeholder. -/
def next (bindings : Bindings) : Nat :=
  bindings.values.length + 1

/-- Binds one value and gives its placeholder. -/
def bind (bindings : Bindings) (value : String) : String × Bindings :=
  (String.ofList (writePlaceholder bindings.next), ⟨bindings.values ++ [value]⟩)

/-- Binds the operands of a predicate and gives its text. -/
def bindPredicate (bindings : Bindings) (predicate : Predicate String) : String × Bindings :=
  (String.ofList (predicate.number bindings.next).write,
    ⟨bindings.values ++ predicate.operands⟩)

end Bindings

end SearchBox.Sql
