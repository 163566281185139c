import SearchBox.Text.Literal
import SearchBox.Token.Lexeme

/-! Reading the tokens of a query one after another. What came before a plain word decides whether
it is a value, a reserved word or a search word; it never moves the end of a token. -/

namespace SearchBox

/-- What the tokens read so far say about the next word. -/
structure LexicalContext where
  previous : Option Token.Kind
  inList : Bool
  deriving DecidableEq, Repr

namespace LexicalContext

def start : LexicalContext :=
  ⟨none, false⟩

/-- Words after a colon, after a range mark and inside `IN(...)` are values. -/
def expectsValue (context : LexicalContext) : Bool :=
  context.inList ||
    match context.previous with
    | some .colon | some (.range _) => true
    | _ => false

/-- The kind of a literal written without quotes. -/
def literalKind (text : List Char) : Token.Kind :=
  if isNumber text then .number else if isDate text then .date else .value

/-- Whether the word `IN` right after a colon opens a list: a parenthesis comes next. -/
def opensList (context : LexicalContext) (word rest : List Char) : Bool :=
  context.previous == some .colon && sameIgnoringAsciiCase word "IN".toList &&
    (rest.dropWhile isBlank).head? == some '('

def wordKind (context : LexicalContext) (word rest : List Char) : Token.Kind :=
  if rest.head? = some ':' then .fieldName
  else if context.expectsValue then
    if context.opensList word rest then .keyword .isIn else literalKind word
  else
    match Keyword.ofWord? word with
    | some keyword => .keyword keyword
    | none => .word

def kindOf (context : LexicalContext) (lexeme : Lexeme) : Token.Kind :=
  match lexeme.shape with
  | .fixed kind => kind
  | .plainWord => context.wordKind lexeme.text lexeme.rest

/-- The context after a token of the given kind. A list begins at the parenthesis after `IN` and
ends at the next closing one. -/
def after (context : LexicalContext) (kind : Token.Kind) : LexicalContext :=
  { previous := some kind
    inList :=
      match kind with
      | .leftParen => context.inList || context.previous == some (.keyword .isIn)
      | .rightParen => false
      | _ => context.inList }

end LexicalContext

/-- A reader of tokens: the text ahead, the byte position where it starts, and what came before. -/
structure Lexer where
  rest : List Char
  position : Nat
  context : LexicalContext
  finished : Bool

namespace Lexer

def ofText (input : String) : Lexer :=
  ⟨input.toList, 0, .start, false⟩

/-- The next token, with the reader after it. The last token is the end of the input. -/
def next? (lexer : Lexer) : Option (Token × Lexer) :=
  if lexer.finished then none
  else
    let position := lexer.position + byteWidth (lexer.rest.takeWhile isBlank)
    match lexer.rest.dropWhile isBlank with
    | [] => some (Token.atEnd position, ⟨[], position, lexer.context, true⟩)
    | c :: text =>
      let lexeme := Lexeme.first c text
      let kind := lexer.context.kindOf lexeme
      let width := byteWidth lexeme.text
      some (⟨kind, String.ofList lexeme.text, ⟨position, width⟩⟩,
        ⟨lexeme.rest, position + width, lexer.context.after kind, false⟩)

/-- An upper bound on the number of tokens still to come. -/
def remaining (lexer : Lexer) : Nat :=
  if lexer.finished then 0 else lexer.rest.length + 1

theorem remaining_next? {lexer later : Lexer} {token : Token}
    (found : lexer.next? = some (token, later)) : later.remaining < lexer.remaining := by
  unfold next? at found
  split at found
  · simp at found
  · next running =>
    have skipped := (List.dropWhile_suffix isBlank (l := lexer.rest)).length_le
    split at found
    · cases found
      simp [remaining, running]
    · next c text split =>
      cases found
      have shorter := Lexeme.first_rest_length_le c text
      rw [split, List.length_cons] at skipped
      simp only [remaining, running]
      simp
      omega

/-- All tokens still to come. -/
def tokens (lexer : Lexer) : List Token :=
  match _found : lexer.next? with
  | none => []
  | some (token, later) => token :: later.tokens
termination_by lexer.remaining
decreasing_by exact remaining_next? ‹_›

end Lexer

/-- The tokens of a text, up to and including the end of the input. -/
def tokenize (input : String) : List Token :=
  (Lexer.ofText input).tokens

end SearchBox
