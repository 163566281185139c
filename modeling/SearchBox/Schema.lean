import SearchBox.Text.Lowercase

/-! Declarations of the fields that a query may name, and how a name finds its declaration. Names
are compared in lower case, and of two declarations of one name the later counts. -/

namespace SearchBox

inductive FieldType where
  | string
  | number
  | date
  | boolean
  deriving DecidableEq, Repr

namespace FieldType

def all : List FieldType :=
  [string, number, date, boolean]

def name : FieldType → String
  | string => "string"
  | number => "number"
  | date => "date"
  | boolean => "boolean"

/-- Whether values of the type can be compared by `<` and lie between bounds. -/
def isOrdered : FieldType → Bool
  | number | date => true
  | string | boolean => false

/-- The type with exactly this name. -/
def ofName? (word : String) : Option FieldType :=
  all.find? fun type => type.name == word

/-- The type named by a word of the shorthand `name:type`, already in lower case. -/
def ofShorthand? : String → Option FieldType
  | "string" | "text" => some string
  | "number" | "numeric" => some number
  | "date" => some date
  | "boolean" | "bool" => some boolean
  | _ => none

end FieldType

structure Declaration where
  name : String
  type : FieldType
  deriving DecidableEq, Repr

/-- Why a text is no declaration in the shorthand `name:type`. -/
inductive ShorthandError where
  | noColon (text : String)
  | noName (text : String)
  | unknownType (word : String)
  deriving DecidableEq, Repr

def ShorthandError.message : ShorthandError → String
  | noColon text => s!"Expected 'name:type', got '{text}'"
  | noName text => s!"Missing field name in '{text}'"
  | unknownType word =>
    s!"Unknown field type '{word}'. Expected: string, number, date, or boolean"

/-- Reads a type name in any case of its ASCII letters. -/
def FieldType.ofShorthand (word : String) : Except ShorthandError FieldType :=
  let lowered := String.ofList (word.toList.map Char.toLower)
  match ofShorthand? lowered with
  | some type => .ok type
  | none => .error (.unknownType lowered)

/-- Reads the shorthand `name:type`; the name ends at the first colon. -/
def Declaration.ofShorthand (text : String) : Except ShorthandError Declaration :=
  match text.toList.dropWhile (· != ':') with
  | [] => .error (.noColon text)
  | _ :: type =>
    match text.toList.takeWhile (· != ':') with
    | [] => .error (.noName text)
    | name => do return ⟨String.ofList name, ← FieldType.ofShorthand (String.ofList type)⟩

structure Schema where
  declarations : List Declaration
  deriving DecidableEq, Repr

namespace Schema

/-- The last declaration of a name. -/
def lookup? (schema : Schema) (name : String) : Option Declaration :=
  let wanted := lowercase name
  schema.declarations.reverse.find? fun declaration => lowercase declaration.name == wanted

/-- Of entries with equal keys the last one. -/
def lastOfEach {α : Type} : List (String × α) → List α
  | [] => []
  | (key, value) :: later =>
    if later.any fun other => other.1 == key then lastOfEach later else value :: lastOfEach later

/-- The declarations that count: each one that no later one of the same name replaces. -/
def inForce (schema : Schema) : List Declaration :=
  lastOfEach (schema.declarations.map fun declaration => (lowercase declaration.name, declaration))

/-- A schema without declarations, under which any field may be named and takes any value. -/
def isEmpty (schema : Schema) : Bool :=
  schema.declarations.isEmpty

/-- The declared names as written, in the order of their code points. -/
def names (schema : Schema) : List String :=
  (schema.inForce.map Declaration.name).mergeSort fun first second =>
    decide (first ≤ second)

end Schema

end SearchBox
