/-! Identifiers in SQL text. A dotted name is a sequence of parts, each in double quotes, and a quote
inside a part is written twice. -/

namespace SearchBox.Sql

/-- What a character of a name becomes between the outer quotes; a dot closes one part and opens the
next. -/
def quotedChar : Char → List Char
  | '"' => ['"', '"']
  | '.' => ['"', '.', '"']
  | c => [c]

def quoteIdentifier (name : String) : String :=
  String.ofList ('"' :: (name.toList.flatMap quotedChar ++ ['"']))

end SearchBox.Sql
