/-! Formulas over atoms of any type, built with AND, OR and NOT. Queries and the predicates made
from them are formulas over atoms of their own. -/

namespace SearchBox

inductive Connective where
  | and
  | or
  deriving DecidableEq, Repr

def Connective.word : Connective → String
  | .and => "AND"
  | .or => "OR"

inductive Formula (α : Type) where
  | atom (value : α)
  | join (connective : Connective) (left right : Formula α)
  | negation (inner : Formula α)
  deriving DecidableEq, Repr

namespace Formula

variable {α β ε : Type}

/-- Height of the formula; an atom has height one. -/
def depth : Formula α → Nat
  | atom _ => 1
  | join _ left right => 1 + max left.depth right.depth
  | negation inner => 1 + inner.depth

/-- The atoms from left to right. -/
def atoms : Formula α → List α
  | atom a => [a]
  | join _ left right => left.atoms ++ right.atoms
  | negation inner => inner.atoms

def map (f : α → β) : Formula α → Formula β
  | atom a => atom (f a)
  | join connective left right => join connective (left.map f) (right.map f)
  | negation inner => negation (inner.map f)

/-- Replaces every atom, or fails as the leftmost atom does that fails. -/
def mapExcept (f : α → Except ε β) : Formula α → Except ε (Formula β)
  | atom a => do return atom (← f a)
  | join connective left right => do
    return join connective (← left.mapExcept f) (← right.mapExcept f)
  | negation inner => do return negation (← inner.mapExcept f)

/-- The text of the formula with every join and every negated part in parentheses, and `rest` after
it. -/
def writeBefore (writeAtom : α → List Char) : Formula α → (rest : List Char) → List Char
  | atom a, rest => writeAtom a ++ rest
  | join connective left right, rest =>
    '(' :: left.writeBefore writeAtom (' ' :: (connective.word.toList ++
      ' ' :: right.writeBefore writeAtom (')' :: rest)))
  | negation inner, rest => "NOT (".toList ++ inner.writeBefore writeAtom (')' :: rest)

def write (writeAtom : α → List Char) (formula : Formula α) : List Char :=
  formula.writeBefore writeAtom []

end Formula

end SearchBox
