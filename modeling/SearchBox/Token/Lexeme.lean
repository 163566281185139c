import SearchBox.Text.Blank
import SearchBox.Token

/-! Lexemes: how a text that starts with no blank is cut into its first token and the rest. Where
the cut falls depends on the text alone; only the kind of a plain word is left open. -/

namespace SearchBox

/-- What the characters of a lexeme say about its kind. -/
inductive Shape where
  | fixed (kind : Token.Kind)
  | plainWord
  deriving DecidableEq, Repr

structure Lexeme where
  shape : Shape
  text : List Char
  rest : List Char

/-- Characters that end a word without being blank. -/
def wordEnds : List Char :=
  ['"', '(', ')', ',', ':', '<', '>', '*']

def isWordChar (c : Char) : Bool :=
  !isBlank c && !wordEnds.contains c

/-- Whether the text begins with the two dots of a range. -/
def startsWithSpan : List Char → Bool
  | '.' :: '.' :: _ => true
  | _ => false

/-- The longest word at the front, which stops before the dots of a range, and the rest. -/
def splitWord : List Char → List Char × List Char
  | [] => ([], [])
  | c :: text =>
    if isWordChar c && !startsWithSpan (c :: text) then
      let split := splitWord text
      (c :: split.1, split.2)
    else ([], c :: text)

theorem splitWord_append (text : List Char) : (splitWord text).1 ++ (splitWord text).2 = text := by
  fun_induction splitWord text with
  | case1 => rfl
  | case2 c text _ split ih => simpa [split] using ih
  | case3 => rfl

namespace Lexeme

/-- Attaches a star that follows to the lexeme, which makes it a wildcard. -/
def withStar (shape : Shape) (text rest : List Char) : Lexeme :=
  match rest with
  | '*' :: after => ⟨.fixed .wildcard, text ++ ['*'], after⟩
  | _ => ⟨shape, text, rest⟩

/-- The lexeme at an opening quote with `text` after it. -/
def ofQuote (text : List Char) : Lexeme :=
  match Quoted.splitBody? text with
  | some (body, rest) => withStar (.fixed .quoted) ('"' :: (body ++ ['"'])) rest
  | none => ⟨.fixed .unterminated, '"' :: text, []⟩

/-- The lexeme at a character that opens nothing else. -/
def ofWord (c : Char) (text : List Char) : Lexeme :=
  match splitWord (c :: text) with
  | ([], _) => ⟨.fixed .invalid, [c], text⟩
  | (word, rest) => withStar .plainWord word rest

/-- The first lexeme of the text `c :: text`. -/
def first (c : Char) (text : List Char) : Lexeme :=
  match c, text with
  | '(', _ => ⟨.fixed .leftParen, ['('], text⟩
  | ')', _ => ⟨.fixed .rightParen, [')'], text⟩
  | ',', _ => ⟨.fixed .comma, [','], text⟩
  | ':', _ => ⟨.fixed .colon, [':'], text⟩
  | '"', _ => ofQuote text
  | '>', '=' :: rest => ⟨.fixed (.range (.bound .atLeast)), ['>', '='], rest⟩
  | '<', '=' :: rest => ⟨.fixed (.range (.bound .atMost)), ['<', '='], rest⟩
  | '.', '.' :: rest => ⟨.fixed (.range .span), ['.', '.'], rest⟩
  | '>', _ => ⟨.fixed (.range (.bound .above)), ['>'], text⟩
  | '<', _ => ⟨.fixed (.range (.bound .below)), ['<'], text⟩
  | _, _ => ofWord c text

theorem withStar_append (shape : Shape) (text rest : List Char) :
    (withStar shape text rest).text ++ (withStar shape text rest).rest = text ++ rest := by
  unfold withStar
  split <;> simp

theorem withStar_text_ne_nil (shape : Shape) {text : List Char} (rest : List Char)
    (nonempty : text ≠ []) : (withStar shape text rest).text ≠ [] := by
  unfold withStar
  split <;> simp [nonempty]

theorem ofQuote_append (text : List Char) :
    (ofQuote text).text ++ (ofQuote text).rest = '"' :: text := by
  unfold ofQuote
  split
  · next body rest found =>
    simp [withStar_append, Quoted.splitBody?_append found]
  · simp

theorem ofQuote_text_ne_nil (text : List Char) : (ofQuote text).text ≠ [] := by
  unfold ofQuote
  split
  · exact withStar_text_ne_nil _ _ (by simp)
  · simp

theorem ofWord_append (c : Char) (text : List Char) :
    (ofWord c text).text ++ (ofWord c text).rest = c :: text := by
  have whole := splitWord_append (c :: text)
  unfold ofWord
  split
  · rfl
  · next word rest _ split =>
    rw [split] at whole
    rw [withStar_append, whole]

theorem ofWord_text_ne_nil (c : Char) (text : List Char) : (ofWord c text).text ≠ [] := by
  unfold ofWord
  split
  · simp
  · next word rest nonempty split =>
    exact withStar_text_ne_nil _ _ nonempty

/-- Nothing of the text is lost or changed. -/
theorem first_append (c : Char) (text : List Char) :
    (first c text).text ++ (first c text).rest = c :: text := by
  unfold first
  split <;> simp [ofQuote_append, ofWord_append]

theorem first_text_ne_nil (c : Char) (text : List Char) : (first c text).text ≠ [] := by
  unfold first
  split <;> simp [ofQuote_text_ne_nil, ofWord_text_ne_nil]

theorem first_rest_length_le (c : Char) (text : List Char) :
    (first c text).rest.length ≤ text.length := by
  have whole := congrArg List.length (first_append c text)
  have nonempty := List.length_pos_iff.2 (first_text_ne_nil c text)
  simp only [List.length_append, List.length_cons] at whole
  omega

end Lexeme

end SearchBox
