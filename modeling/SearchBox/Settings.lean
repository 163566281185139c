import SearchBox.Query
import SearchBox.Sql.Options

/-! Settings of a search: the declared fields, the columns searched by clauses without a field, and
the choices for reading and compiling queries. -/

namespace SearchBox

structure Settings where
  schema : Schema
  columns : List String
  sql : Sql.Options
  limits : Limits
  deriving DecidableEq, Repr

namespace Settings

def default : Settings :=
  ⟨⟨[]⟩, [], Sql.Options.default, Limits.default⟩

/-- Declares one more field. -/
def declare (settings : Settings) (declaration : Declaration) : Settings :=
  { settings with schema := ⟨settings.schema.declarations ++ [declaration]⟩ }

/-- Adds a column to those already searched. -/
def searchColumn (settings : Settings) (column : String) : Settings :=
  { settings with columns := settings.columns ++ [column] }

def withSearchType (settings : Settings) (searchType : Sql.SearchType) : Settings :=
  { settings with sql := { settings.sql with searchType } }

def withMaxDepth (settings : Settings) (maxDepth : Nat) : Settings :=
  { settings with limits := { settings.limits with maxDepth } }

def withMaxInputLength (settings : Settings) (maxInputLength : Nat) : Settings :=
  { settings with limits := { settings.limits with maxInputLength } }

end Settings

end SearchBox
