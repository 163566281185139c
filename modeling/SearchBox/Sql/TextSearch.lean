import SearchBox.Sql.Predicate
import SearchBox.Text.Alphanumeric
import SearchBox.Text.Blank

/-! Ways to look for a word that names no field, and how the word is encoded for each of them so that
the database takes it as plain text. -/

namespace SearchBox.Sql

/-- How to match a word, and the beginning of a word, in a column given by its SQL text. Unless told
otherwise, a beginning is matched like a whole word. -/
structure TextSearch where
  term : (column text : String) → Predicate String
  stem : (column text : String) → Predicate String := term

/-! Patterns: `%` and `_` have a meaning, and a backslash takes it away. -/

def escapePattern (text : List Char) : List Char :=
  text.flatMap fun c => if ['%', '_', '\\'].contains c then ['\\', c] else [c]

def TextSearch.ilike : TextSearch where
  term column text := .pattern column (String.ofList ('%' :: (escapePattern text.toList ++ ['%'])))
  stem column text := .pattern column (String.ofList (escapePattern text.toList ++ ['%']))

/-! Full text: the words of a beginning are required together, the last one as a beginning. -/

/-- The maximal runs of letters and digits. -/
def searchWords (text : List Char) : List (List Char) :=
  (text.splitOnP fun c => !isAlphanumeric c).filter fun word => !word.isEmpty

/-- The query for a beginning, if it holds any word. -/
def stemQuery? (text : List Char) : Option (List Char) :=
  match searchWords text with
  | [] => none
  | words => some (" & ".toList.intercalate words ++ ":*".toList)

def TextSearch.tsvector (configuration : String) : TextSearch where
  term column text := .fullText column configuration .plainWords text
  stem column text :=
    match stemQuery? text.toList with
    | some query => .fullText column configuration .operators (String.ofList query)
    | none => .fullText column configuration .plainWords text

/-- A configuration name is written into the text, so it is letters, digits and underscores. -/
def isConfigurationName (name : List Char) : Bool :=
  !name.isEmpty && name.all fun c => c.isAlphanum || c == '_'

/-! Ranked search: the query language of the index has operators of its own. -/

def queryOperators : List Char :=
  ['+', '-', '&', '|', '!', '(', ')', '{', '}', '[', ']', '^', '"', '~', '*', '?', ':', '\\', '/']

def escapeQuery (text : List Char) : List Char :=
  text.flatMap fun c => if queryOperators.contains c then ['\\', c] else [c]

/-- The text with its operators escaped, in quotes if it has more than one word. -/
def plainQuery (text : List Char) : List Char :=
  if text.any isBlank then '"' :: (escapeQuery text ++ ['"']) else escapeQuery text

def TextSearch.paradedb : TextSearch where
  term column text := .ranked column (String.ofList (plainQuery text.toList))
  stem column text := .ranked column (String.ofList (plainQuery text.toList ++ ['*']))

end SearchBox.Sql
