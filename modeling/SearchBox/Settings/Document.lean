import SearchBox.Settings
import SearchBox.Toml.Document

/-! Settings kept in a TOML document. Every key is optional, and keys of other names are left to
others. -/

namespace SearchBox.Settings

open Toml

def text? : Value → Option String
  | .string text => some text
  | _ => none

/-- A number that is not negative. -/
def count? : Value → Option Nat
  | .integer (.ofNat number) => some number
  | _ => none

def items? : Value → Option (List Value)
  | .array items => some items
  | .tables rows => some (rows.reverse.map (.table .header))
  | _ => none

/-- Whether a value says nothing beyond being there. -/
def isHollow : Value → Bool
  | .table _ [] | .array [] => true
  | _ => false

/-- One of several words: written as text, or as the only key of a table, with nothing under it. -/
def word? : Value → Option String
  | .string text => some text
  | .table _ [(key, value)] => if isHollow value then some key else none
  | _ => none

def searchType? (value : Value) : Option Sql.SearchType := do
  Sql.SearchType.ofName? (← word? value)

def fieldType? (value : Value) : Option FieldType := do
  FieldType.ofName? (← word? value)

/-- A declaration is a table, or an array that has the name first and the type second. -/
def declaration? : Value → Option Declaration
  | .table _ entries => do
    let name ← text? (← Entries.get? entries "name")
    let type ← fieldType? (← Entries.get? entries "type")
    return ⟨name, type⟩
  | .array (name :: type :: _) => do return ⟨← text? name, ← fieldType? type⟩
  | _ => none

/-- What a key holds, or the given value where the key is absent. -/
def entry {α : Type} (entries : Entries) (key : String) (absent : α)
    (read? : Value → Option α) : Option α :=
  match entries.get? key with
  | none => some absent
  | some value => read? value

def ofEntries? (entries : Entries) : Option Settings := do
  let declarations ← entry entries "fields" [] fun value => do (← items? value).mapM declaration?
  let columns ←
    entry entries "searchable_columns" default.columns fun value => do
      (← items? value).mapM text?
  let searchType ← entry entries "search_type" default.sql.searchType searchType?
  let configuration ← entry entries "ts_config" default.sql.configuration text?
  let maxInputLength ← entry entries "max_input_length" default.limits.maxInputLength count?
  let maxDepth ← entry entries "max_depth" default.limits.maxDepth count?
  return ⟨⟨declarations⟩, columns, ⟨searchType, configuration⟩, ⟨maxInputLength, maxDepth⟩⟩

/-- The settings of a document, if it is TOML and its values are of the right types. -/
def ofToml? (document : String) : Option Settings := do
  ofEntries? (← Toml.parse? document)

end SearchBox.Settings
