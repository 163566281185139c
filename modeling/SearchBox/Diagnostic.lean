import SearchBox.Schema
import SearchBox.Token

/-! Diagnostics: what can be wrong with a query, in which words it is told, and where. -/

namespace SearchBox

/-- Classes of problems. The first four stop the reading of a query, the others are collected. -/
inductive DiagnosticCode where
  | syntaxError
  | unterminatedString
  | nestingTooDeep
  | inputTooLong
  | invalidFieldChars
  | reservedWordAsField
  | invalidInValue
  | unknownField
  | typeMismatch
  deriving DecidableEq, Repr

namespace DiagnosticCode

def all : List DiagnosticCode :=
  [syntaxError, unterminatedString, nestingTooDeep, inputTooLong, invalidFieldChars,
    reservedWordAsField, invalidInValue, unknownField, typeMismatch]

def name : DiagnosticCode → String
  | syntaxError => "SYNTAX_ERROR"
  | unterminatedString => "UNTERMINATED_STRING"
  | nestingTooDeep => "NESTING_TOO_DEEP"
  | inputTooLong => "INPUT_TOO_LONG"
  | invalidFieldChars => "INVALID_FIELD_CHARS"
  | reservedWordAsField => "RESERVED_WORD_AS_FIELD"
  | invalidInValue => "INVALID_IN_VALUE"
  | unknownField => "UNKNOWN_FIELD"
  | typeMismatch => "TYPE_MISMATCH"

/-- Whether the problem stops the reading of a query, so that it is reported alone. -/
def isSyntax : DiagnosticCode → Bool
  | syntaxError | unterminatedString | nestingTooDeep | inputTooLong => true
  | _ => false

end DiagnosticCode

/-- A problem report; the span is in bytes of the query text. -/
structure Diagnostic where
  message : String
  code : DiagnosticCode
  span : Span
  /-- The offending text. -/
  value? : Option String
  deriving DecidableEq, Repr

/-- The message together with the place. -/
def Diagnostic.summary (diagnostic : Diagnostic) : String :=
  s!"{diagnostic.message} at position {diagnostic.span.position}"

/-- The causes of diagnostics. -/
inductive Problem where
  | unexpectedEnd
  | unexpectedCharacter (text : String)
  | unexpectedToken (found : Token)
  | unterminatedString
  | colonWithoutField
  | markWithoutField (mark : RangeMark)
  | unclosedGroup (opening : Nat) (found : Token)
  | noLowerBound (field : String)
  | listNotOpened (found : Token)
  | emptyList (field : String)
  | listNotContinued (found : Token)
  | wildcardAsValue (field : String)
  | noValue (field : String) (found : Token)
  | nestedTooDeep (limit : Nat)
  | chainTooDeep (limit : Nat)
  | inputTooLong (length limit : Nat)
  | invalidFieldName (name : String)
  | reservedFieldName (name : String) (keyword : Keyword)
  | commaInListValue (value : String)
  | unknownField (name : String) (suggestion : Option String)
  | unorderedRange (symbol : String) (type : FieldType) (field : String)
  | mistypedValue (type : FieldType) (field value : String)
  deriving DecidableEq, Repr

/-- How a message names the values of a type. -/
def FieldType.expectation : FieldType → String
  | string => "a string"
  | number => "a number"
  | date => "a date (YYYY-MM-DD)"
  | boolean => "true or false"

namespace Problem

def code : Problem → DiagnosticCode
  | unterminatedString => .unterminatedString
  | nestedTooDeep _ | chainTooDeep _ => .nestingTooDeep
  | inputTooLong _ _ => .inputTooLong
  | invalidFieldName _ => .invalidFieldChars
  | reservedFieldName _ _ => .reservedWordAsField
  | commaInListValue _ => .invalidInValue
  | unknownField _ _ => .unknownField
  | unorderedRange _ _ _ | mistypedValue _ _ _ => .typeMismatch
  | _ => .syntaxError

def message : Problem → String
  | unexpectedEnd => "Unexpected end of input"
  | unexpectedCharacter text => s!"Unexpected character '{text}'"
  | unexpectedToken found => s!"Unexpected {found.description}"
  | unterminatedString => "Unterminated quoted string"
  | colonWithoutField => "Unexpected ':' without a field name"
  | markWithoutField mark => s!"Range operator '{mark.symbol}' must follow 'field:'"
  | unclosedGroup opening found =>
    s!"Expected ')' to close '(' at position {opening}, found {found.description}"
  | noLowerBound field => s!"Range on '{field}' is missing a lower bound"
  | listNotOpened found => s!"Expected '(' after IN, found {found.description}"
  | emptyList field => s!"IN list for '{field}' needs at least one value"
  | listNotContinued found => s!"Expected ',' or ')' in IN list, found {found.description}"
  | wildcardAsValue field => s!"Wildcards are not supported in the value of '{field}'"
  | noValue field found => s!"Expected a value for '{field}', found {found.description}"
  | nestedTooDeep limit => s!"Query is nested more than {limit} levels deep"
  | chainTooDeep limit =>
    s!"Query is more than {limit} levels deep; each AND/OR in a chain adds a level, " ++
      "group long chains with parentheses"
  | inputTooLong length limit => s!"Query is {length} bytes long; the limit is {limit}"
  | invalidFieldName name =>
    s!"Invalid field name '{name}': use a letter followed by letters, digits, '_' or '-'"
  | reservedFieldName _ keyword =>
    s!"'{keyword.text}' is a reserved word and cannot be used as a field name"
  | commaInListValue value => s!"IN value '{value}' must not contain a comma"
  | unknownField name none => s!"Unknown field '{name}'"
  | unknownField name (some suggestion) =>
    s!"Unknown field '{name}'. Did you mean '{suggestion}'?"
  | unorderedRange symbol type field =>
    s!"Range '{symbol}' is not supported for {type.name} field '{field}'"
  | mistypedValue type field value =>
    s!"Expected {type.expectation} for field '{field}', got '{value}'"

/-- The text that the problem is about, for the problems that are collected. -/
def value? : Problem → Option String
  | invalidFieldName name | reservedFieldName name _ | unknownField name _ => some name
  | commaInListValue value | mistypedValue _ _ value => some value
  | unorderedRange _ _ field => some field
  | _ => none

/-- The report of a problem at a place. -/
def report (problem : Problem) (span : Span) : Diagnostic :=
  ⟨problem.message, problem.code, span, problem.value?⟩

/-- The problem of a token that does not fit where it stands. -/
def ofToken (token : Token) : Problem :=
  match token.kind with
  | .unterminated => unterminatedString
  | .endOfInput => unexpectedEnd
  | .invalid => unexpectedCharacter token.text
  | _ => unexpectedToken token

/-- Where such a token is reported; the end of the input takes up no space. -/
def spanOf (token : Token) : Span :=
  match token.kind with
  | .endOfInput => ⟨token.span.position, 0⟩
  | _ => token.span

def unexpected (token : Token) : Diagnostic :=
  (ofToken token).report (spanOf token)

end Problem

/-- A query that was refused, with at least one diagnostic, in the order of their positions. -/
structure QueryError where
  diagnostics : List Diagnostic
  deriving DecidableEq, Repr

namespace QueryError

def codes (error : QueryError) : List DiagnosticCode :=
  error.diagnostics.map Diagnostic.code

/-- The first diagnostic and the number of the others. -/
def summary (error : QueryError) : String :=
  match error.diagnostics with
  | [] => "invalid query"
  | [only] => only.summary
  | first :: others => s!"{first.summary} (and {others.length} more)"

end QueryError

end SearchBox
