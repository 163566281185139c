import SearchBox.CommandLine.Style
import SearchBox.Diagnostic
import SearchBox.Text.Blank

/-! Diagnostics drawn under the query that they are about. -/

namespace SearchBox.CommandLine

/-- The number of characters that take up the first `width` bytes, if a character ends there. -/
def charsWithin? (width : Nat) : List Char → Option Nat
  | [] => if width = 0 then some 0 else none
  | c :: text =>
    if width = 0 then some 0
    else if c.utf8Size ≤ width then (charsWithin? (width - c.utf8Size) text).map (· + 1)
    else none

/-- The column of a byte position; one inside a character or past the end stands for itself. -/
def column (query : List Char) (position : Nat) : Nat :=
  (charsWithin? position query).getD position

/-- The query on one line, with every blank character as a space. -/
def queryLine (query : List Char) : List Char :=
  query.map fun c => if isBlank c then ' ' else c

/-- How many columns the marks of a diagnostic are indented by. -/
def indentOf (query : List Char) (span : Span) : Nat :=
  column query span.position

/-- How many marks a diagnostic has; there is always one. -/
def marksOf (query : List Char) (span : Span) : Nat :=
  max 1 (column query span.stop - column query span.position)

def diagnosticLine (color : Color) (query : List Char) (diagnostic : Diagnostic) : String :=
  let indent := String.ofList (List.replicate (indentOf query diagnostic.span) ' ')
  let marks := String.ofList (List.replicate (marksOf query diagnostic.span) '^')
  "  " ++ indent ++ paint color .boldRed marks ++ " " ++ paint color .red diagnostic.code.name ++
    " " ++ diagnostic.message

/-- The query and, below it, one line for each diagnostic. -/
def diagnosticLines (color : Color) (query : String) (diagnostics : List Diagnostic) :
    List String :=
  ("  " ++ String.ofList (queryLine query.toList)) ::
    diagnostics.map (diagnosticLine color query.toList)

end SearchBox.CommandLine
