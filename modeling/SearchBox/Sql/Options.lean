import SearchBox.Text.Lowercase

/-! Choices for the compilation of queries. -/

namespace SearchBox.Sql

/-- How clauses without a field are matched. -/
inductive SearchType where
  | ilike
  | tsvector
  | paradedb
  deriving DecidableEq, Repr

namespace SearchType

def all : List SearchType :=
  [ilike, tsvector, paradedb]

def name : SearchType → String
  | ilike => "ilike"
  | tsvector => "tsvector"
  | paradedb => "paradedb"

/-- The search type with exactly this name. -/
def ofName? (word : String) : Option SearchType :=
  all.find? fun type => type.name == word

/-- The search type with this name in any case of its letters. -/
def ofWord? (word : String) : Option SearchType :=
  all.find? fun type => sameIgnoringAsciiCase type.name.toList word.toList

/-- What is said about a word that names no search type. -/
def unknownMessage (word : String) : String :=
  s!"Unknown search type '{word}' (expected ilike, tsvector or paradedb)"

end SearchType

structure Options where
  searchType : SearchType
  /-- The text search configuration of full-text matches. -/
  configuration : String
  deriving DecidableEq, Repr

def Options.default : Options :=
  ⟨.ilike, "english"⟩

end SearchBox.Sql
