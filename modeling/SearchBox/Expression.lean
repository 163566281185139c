import SearchBox.Comparison
import SearchBox.Formula
import SearchBox.Schema

/-! What a query asks for: clauses joined by AND, OR and NOT. -/

namespace SearchBox

/-- One condition of a query, over fields of type `φ` and values of type `ν`. -/
inductive Clause (φ ν : Type) where
  /-- A word or phrase to be found in any searchable column. -/
  | term (value : String)
  /-- The beginning of a word or phrase. -/
  | wildcard (stem : String) (quoted : Bool)
  | equals (field : φ) (value : ν)
  /-- A range; `upper` is the second bound of `BETWEEN`. -/
  | range (field : φ) (operator : RangeOperator) (value : ν) (upper : Option ν)
  | member (field : φ) (values : List ν)
  deriving DecidableEq, Repr

namespace Clause

variable {φ ν φ' ν' : Type}

def field? : Clause φ ν → Option φ
  | equals field _ | range field _ _ _ | member field _ => some field
  | term _ | wildcard _ _ => none

def map (onField : φ → φ') (onValue : ν → ν') : Clause φ ν → Clause φ' ν'
  | term value => term value
  | wildcard stem quoted => wildcard stem quoted
  | equals field value => equals (onField field) (onValue value)
  | range field operator value upper =>
    range (onField field) operator (onValue value) (upper.map onValue)
  | member field values => member (onField field) (values.map onValue)

end Clause

/-- A field as the user named it, with its type where a schema declares one. -/
structure Field where
  name : String
  type? : Option FieldType
  deriving DecidableEq, Repr

abbrev Expression := Formula (Clause Field String)

/-- The field of an expression that is a single clause on a field. -/
def Expression.field? : Expression → Option Field
  | .atom clause => clause.field?
  | _ => none

end SearchBox
