import SearchBox.Comparison
import SearchBox.Text.Lowercase
import SearchBox.Text.Quoted
import SearchBox.Text.Span

/-! Tokens of a query. A token keeps its text exactly as written, quotes and escapes included, and
the span it covers; broken fragments are tokens of their own kinds. -/

namespace SearchBox

/-- Reserved words. -/
inductive Keyword where
  | and
  | or
  | not
  | isIn
  deriving DecidableEq, Repr

namespace Keyword

def text : Keyword → String
  | and => "AND"
  | or => "OR"
  | not => "NOT"
  | isIn => "IN"

def all : List Keyword :=
  [and, or, not, isIn]

/-- The reserved word that `word` spells in any case. -/
def ofWord? (word : List Char) : Option Keyword :=
  all.find? fun keyword => sameIgnoringAsciiCase word keyword.text.toList

end Keyword

namespace Token

inductive Kind where
  | keyword (keyword : Keyword)
  /-- A word with a colon right after it. -/
  | fieldName
  | colon
  | quoted
  | number
  | date
  /-- A word in value position that is neither a number nor a date. -/
  | value
  /-- A word or quoted string with a star right after it. -/
  | wildcard
  | range (mark : RangeMark)
  | leftParen
  | rightParen
  | comma
  /-- A word outside value position. -/
  | word
  | unterminated
  /-- A character that starts no token. -/
  | invalid
  | endOfInput
  deriving DecidableEq, Repr

/-- The kinds that are accepted where a value is expected. -/
def Kind.isLiteral : Kind → Bool
  | quoted | number | date | value => true
  | _ => false

end Token

structure Token where
  kind : Token.Kind
  text : String
  span : Span
  deriving DecidableEq, Repr

namespace Token

/-- The token that ends a text of `length` bytes. -/
def atEnd (length : Nat) : Token :=
  ⟨.endOfInput, "", ⟨length, 0⟩⟩

/-- A text without the star at its end. -/
def dropStar (text : List Char) : List Char :=
  if text.getLast? = some '*' then text.dropLast else text

/-- What the token stands for: quotes removed and escapes resolved, the star of a wildcard gone. -/
def value (token : Token) : String :=
  match token.kind with
  | .quoted => String.ofList (Quoted.decode token.text.toList)
  | .wildcard =>
    let stem := dropStar token.text.toList
    String.ofList (if stem.head? = some '"' then Quoted.decode stem else stem)
  | _ => token.text

def isQuoted (token : Token) : Bool :=
  token.text.toList.head? == some '"'

/-- How messages name the token. -/
def description (token : Token) : String :=
  match token.kind with
  | .endOfInput => "end of input"
  | .keyword keyword => s!"keyword '{keyword.text}'"
  | _ => s!"'{token.text}'"

end Token

end SearchBox
