import SearchBox.CommandLine.Style
import SearchBox.Expression
import SearchBox.Json
import SearchBox.Sql.Compile
import SearchBox.Token

/-! Results of the commands, as lines for a reader and as JSON for a program. -/

namespace SearchBox.CommandLine

/-! Expressions -/

def fieldLabel (color : Color) (field : Field) : String :=
  let name := paint color .boldWhite field.name
  match field.type? with
  | some type => name ++ paint color .dimmed (":" ++ type.name)
  | none => name

def clauseLine (color : Color) (clause : Clause Field String) : String :=
  let label (word : String) : String := paint color .cyan word
  let shown (value : String) : String := paint color .yellow value
  match clause with
  | .term value => label "TERM" ++ " " ++ shown value
  | .wildcard stem quoted =>
    label "WILDCARD" ++ " " ++ shown stem ++ "*" ++
      paint color .dimmed (if quoted then " (quoted)" else "")
  | .equals field value => label "FIELD" ++ " " ++ fieldLabel color field ++ " = " ++ shown value
  | .range field operator value upper =>
    let second :=
      match upper with
      | some upper => " AND " ++ shown upper
      | none => ""
    label "RANGE" ++ " " ++ fieldLabel color field ++ " " ++ operator.symbol ++ " " ++
      shown value ++ second
  | .member field values =>
    label "IN" ++ " " ++ fieldLabel color field ++
      " (" ++ ", ".intercalate (values.map shown) ++ ")"

/-- One line for each clause and operator, operands below their operator and further in. -/
def expressionLines (color : Color) (depth : Nat) (expression : Expression) : List String :=
  let indent := String.ofList (List.replicate (2 * depth) ' ')
  match expression with
  | .atom clause => [indent ++ clauseLine color clause]
  | .join connective left right =>
    (indent ++ paint color .boldMagenta connective.word) ::
      (expressionLines color (depth + 1) left ++ expressionLines color (depth + 1) right)
  | .negation inner =>
    (indent ++ paint color .boldMagenta "NOT") :: expressionLines color (depth + 1) inner

def fieldJson (field : Field) : Json :=
  .object (("name", .string field.name) ::
    field.type?.toList.map fun type => ("type", .string type.name))

def clauseJson : Clause Field String → Json
  | .term value => .object [("type", .string "SEARCH_TERM"), ("value", .string value)]
  | .wildcard stem quoted =>
    .object [("type", .string "WILDCARD"), ("prefix", .string stem), ("quoted", .boolean quoted)]
  | .equals field value =>
    .object [("type", .string "FIELD_VALUE"), ("field", fieldJson field), ("value", .string value)]
  | .range field operator value upper =>
    .object ([("type", .string "RANGE"), ("field", fieldJson field),
      ("operator", .string operator.symbol), ("value", .string value)] ++
      upper.toList.map fun upper => ("value2", .string upper))
  | .member field values =>
    .object [("type", .string "IN"), ("field", fieldJson field),
      ("values", .array (values.map .string))]

def expressionJson : Expression → Json
  | .atom clause => clauseJson clause
  | .join connective left right =>
    .object [("type", .string connective.word), ("left", expressionJson left),
      ("right", expressionJson right)]
  | .negation inner => .object [("type", .string "NOT"), ("expression", expressionJson inner)]

/-! Statements -/

def bindingLine (color : Color) (number : Nat) (value : String) : String :=
  "  $" ++ toString number ++ " = " ++ paint color .yellow value

def bindingLines (color : Color) (number : Nat) : List String → List String
  | [] => []
  | value :: values => bindingLine color number value :: bindingLines color (number + 1) values

def statementLines (color : Color) (statement : Sql.Statement) : List String :=
  let bindings :=
    if statement.values.isEmpty then []
    else ["", paint color .cyan "Bindings:"] ++ bindingLines color 1 statement.values
  [paint color .boldGreen "Generated SQL:", paint color .white statement.text] ++ bindings

def statementJson (statement : Sql.Statement) : Json :=
  .object [("text", .string statement.text), ("values", .array (statement.values.map .string))]

/-! Tokens -/

def keywordLabel : Keyword → String
  | .and => "And"
  | .or => "Or"
  | .not => "Not"
  | .isIn => "In"

def markLabel : RangeMark → String
  | .bound .atLeast => "Gte"
  | .bound .above => "Gt"
  | .bound .atMost => "Lte"
  | .bound .below => "Lt"
  | .span => "Span"

def kindLabel : Token.Kind → String
  | .keyword keyword => "Keyword(" ++ keywordLabel keyword ++ ")"
  | .fieldName => "FieldName"
  | .colon => "Colon"
  | .quoted => "QuotedString"
  | .number => "Number"
  | .date => "Date"
  | .value => "Value"
  | .wildcard => "Wildcard"
  | .range mark => "RangeOp(" ++ markLabel mark ++ ")"
  | .leftParen => "LeftParen"
  | .rightParen => "RightParen"
  | .comma => "Comma"
  | .word => "Identifier"
  | .unterminated => "UnterminatedString"
  | .invalid => "Invalid"
  | .endOfInput => "Eof"

def kindStyle : Token.Kind → Style
  | .invalid | .unterminated => .red
  | .keyword _ => .magenta
  | .endOfInput => .dimmed
  | _ => .cyan

/-- A row with a first cell in a style of its own; the second cell may be styled too. -/
def tokenRow (color : Color) (style : Style) (kind : String) (span text : String) : String :=
  paint color style (padRight 18 kind) ++ " " ++ span ++ " " ++ text

def tokenLine (color : Color) (token : Token) : String :=
  let span := toString token.span.position ++ ".." ++ toString token.span.stop
  tokenRow color (kindStyle token.kind) (kindLabel token.kind) (padRight 10 span)
    (paint color .yellow token.text)

def tokenLines (color : Color) (tokens : List Token) : List String :=
  let heading :=
    tokenRow color .boldWhite "Kind" (paint color .boldWhite (padRight 10 "Span"))
      (paint color .boldWhite "Text")
  let rule := paint color .dimmed (String.ofList (List.replicate 48 '─'))
  heading :: rule :: tokens.map (tokenLine color)

def tokenJson (token : Token) : Json :=
  .object [("kind", .string (kindLabel token.kind)), ("length", .number token.span.length),
    ("position", .number token.span.position), ("text", .string token.text)]

end SearchBox.CommandLine
