import SearchBox.Expression
import SearchBox.Token.Lexeme

/-! The canonical text of an expression: every join in parentheses, and a value in quotes only where
it would not be read back as one literal. -/

namespace SearchBox

def containsSpan : List Char → Bool
  | [] => false
  | c :: text => startsWithSpan (c :: text) || containsSpan text

/-- Whether the text can stand without quotes before a star. -/
def isBareWord (text : List Char) : Bool :=
  !text.isEmpty && !containsSpan text && text.all fun c => isWordChar c && c != '\\'

/-- Whether a value has to be quoted. A dot at either end could run into the dots of a range, and a
reserved word would be read as one. -/
def needsQuotes (text : List Char) : Bool :=
  !isBareWord text || text.head? == some '.' || text.getLast? == some '.' ||
    (Keyword.ofWord? text).isSome

def writeValue (value : String) : List Char :=
  if needsQuotes value.toList then Quoted.encode value.toList else value.toList

/-- Operator and bounds of a range. `BETWEEN` without a second bound has no form of its own and
becomes `>=`; a second bound of any other operator is left out. -/
def writeRange (operator : RangeOperator) (value : String) (upper : Option String) : List Char :=
  match operator, upper with
  | .between, some upper => writeValue value ++ "..".toList ++ writeValue upper
  | .between, none => ">=".toList ++ writeValue value
  | .bound comparison, _ => comparison.symbol.toList ++ writeValue value

def Clause.write : Clause Field String → List Char
  | .term value => writeValue value
  | .wildcard stem quoted =>
    (if quoted || !isBareWord stem.toList then Quoted.encode stem.toList else stem.toList) ++ ['*']
  | .equals field value => field.name.toList ++ ':' :: writeValue value
  | .range field operator value upper =>
    field.name.toList ++ ':' :: writeRange operator value upper
  | .member field values =>
    field.name.toList ++ ":IN(".toList ++ [','].intercalate (values.map writeValue) ++ [')']

/-- The canonical text. -/
def Expression.text (expression : Expression) : String :=
  String.ofList (expression.write Clause.write)

end SearchBox
