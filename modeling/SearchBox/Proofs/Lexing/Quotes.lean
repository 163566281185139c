import Mathlib.Algebra.Group.Nat.Even
import Mathlib.Data.List.DropRight
import SearchBox.Proofs.Lexing.Pieces
import SearchBox.Proofs.Lexing.Tiling

/-! Where a text in quotes ends. A quote closes the text if an even number of backslashes stands right
in front of it, so the backslashes pair off among themselves and none is left over for the quote. What is
written with its escapes ends at its own closing quote, whatever follows, and stands for what it was
written for. -/

namespace SearchBox

namespace Quoted

/-- How many backslashes stand one after another at the end of the text. -/
def backslashes (text : List Char) : Nat :=
  (text.rtakeWhile (· = '\\')).length

/-- The text, which stands behind an opening quote, splits at a quote with an even number of backslashes
right in front of it. -/
structure Closes (text body rest : List Char) : Prop where
  split : body ++ '"' :: rest = text
  even : Even (backslashes body)

/-- No quote further to the front splits the text as well. -/
structure ClosesFirst (text body rest : List Char) : Prop where
  closes : Closes text body rest
  first : ∀ before after, Closes text before after → body.length ≤ before.length

@[simp] theorem backslashes_nil : backslashes [] = 0 :=
  rfl

@[simp] theorem backslashes_concat (text : List Char) (c : Char) :
    backslashes (text ++ [c]) = if c = '\\' then backslashes text + 1 else 0 := by
  by_cases slash : c = '\\'
  · rw [backslashes, List.rtakeWhile_concat_pos _ _ _ (by simpa using slash), if_pos slash,
      List.length_append]
    rfl
  · rw [backslashes, List.rtakeWhile_concat_neg _ _ _ (by simpa using slash), if_neg slash]
    rfl

/-- Backslashes that have paired off in front take none of those behind them. -/
theorem even_backslashes_append {front : List Char} (even : Even (backslashes front))
    (text : List Char) : Even (backslashes (front ++ text)) ↔ Even (backslashes text) := by
  induction text using List.reverseRecOn with
  | nil => simpa using even
  | append_singleton text c ih =>
    rw [← List.append_assoc, backslashes_concat, backslashes_concat]
    split
    · rw [Nat.even_add_one, Nat.even_add_one, ih]
    · exact Iff.rfl

/-- A backslash and the character that it protects are read together. -/
theorem even_backslashes_escaped (c : Char) : Even (backslashes ['\\', c]) := by
  by_cases slash : c = '\\'
  · subst slash
    decide
  · rw [show ['\\', c] = ['\\'] ++ [c] from rfl, backslashes_concat, if_neg slash]
    exact Even.zero

theorem even_backslashes_plain {c : Char} (noSlash : c ≠ '\\') : Even (backslashes [c]) := by
  rw [show [c] = [] ++ [c] from rfl, backslashes_concat, if_neg noSlash]
  exact Even.zero

namespace Closes

variable {text body rest : List Char}

/-- What is read in front moves a closing quote and makes none, if its backslashes have paired off. -/
theorem append_iff {front : List Char} (even : Even (backslashes front)) :
    Closes (front ++ text) (front ++ body) rest ↔ Closes text body rest := by
  constructor
  · rintro ⟨split, evenBoth⟩
    rw [List.append_assoc, List.append_cancel_left_eq] at split
    exact ⟨split, (even_backslashes_append even body).1 evenBoth⟩
  · rintro ⟨split, evenBody⟩
    exact ⟨by rw [List.append_assoc, split], (even_backslashes_append even body).2 evenBody⟩

theorem ne_nil (closes : Closes text body rest) : text ≠ [] := by
  rintro rfl
  cases body <;> cases closes.split

theorem exists_cons {c : Char} (noQuote : c ≠ '"') (closes : Closes (c :: text) body rest) :
    ∃ inner, body = c :: inner := by
  cases body with
  | nil => exact (noQuote (List.cons.inj closes.split).1.symm).elim
  | cons d inner => exact ⟨inner, by rw [(List.cons.inj closes.split).1]⟩

theorem plain {c : Char} (noQuote : c ≠ '"') (noSlash : c ≠ '\\')
    (closes : Closes (c :: text) body rest) : ∃ inner, body = c :: inner ∧ Closes text inner rest := by
  obtain ⟨inner, rfl⟩ := closes.exists_cons noQuote
  exact ⟨inner, rfl, (append_iff (even_backslashes_plain noSlash)).1 closes⟩

/-- No quote closes the text right behind a single backslash. -/
theorem escaped {c : Char} (closes : Closes ('\\' :: c :: text) body rest) :
    ∃ inner, body = '\\' :: c :: inner ∧ Closes text inner rest := by
  obtain ⟨inner, rfl⟩ := closes.exists_cons (by decide)
  cases inner with
  | nil => exact absurd closes.even (by decide)
  | cons d inner =>
    obtain rfl := (List.cons.inj (List.cons.inj closes.split).2).1
    exact ⟨inner, rfl, (append_iff (even_backslashes_escaped d)).1 closes⟩

end Closes

namespace ClosesFirst

variable {text body rest : List Char}

/-- What is read in front of the text moves its first closing quote, if no quote closes it before. -/
theorem append {front : List Char} (even : Even (backslashes front))
    (whole : ∀ before after, Closes (front ++ text) before after →
      ∃ inner, before = front ++ inner ∧ Closes text inner after)
    (closing : ClosesFirst text body rest) :
    ClosesFirst (front ++ text) (front ++ body) rest := by
  refine ⟨(Closes.append_iff even).2 closing.closes, ?_⟩
  intro before after closes
  obtain ⟨inner, rfl, closesInner⟩ := whole before after closes
  have shorter := closing.first inner after closesInner
  rw [List.length_append, List.length_append]
  omega

theorem unique {body' rest' : List Char} (closing : ClosesFirst text body rest)
    (closing' : ClosesFirst text body' rest') : body = body' ∧ rest = rest' := by
  have length := Nat.le_antisymm (closing.first _ _ closing'.closes)
    (closing'.first _ _ closing.closes)
  have same := closing.closes.split.trans closing'.closes.split.symm
  obtain ⟨rfl, behind⟩ := List.append_inj same length
  exact ⟨rfl, (List.cons.inj behind).2⟩

end ClosesFirst

theorem ne_backslash {c : Char} {text : List Char} (single : c = '\\' → text = [] → False)
    (pair : ∀ d later, c = '\\' → text = d :: later → False) : c ≠ '\\' := by
  intro slash
  cases text with
  | nil => exact single slash rfl
  | cons d later => exact pair d later slash rfl

theorem closesFirst_of_splitBody? {text body rest : List Char}
    (found : splitBody? text = some (body, rest)) : ClosesFirst text body rest := by
  fun_induction splitBody? text generalizing body with
  | case1 => cases found
  | case2 => cases found
  | case3 c text ih =>
    obtain ⟨⟨inner, after⟩, split, same⟩ := Option.map_eq_some_iff.1 found
    cases same
    exact (ih split).append (even_backslashes_escaped c) fun _ _ closes => closes.escaped
  | case4 text =>
    cases found
    exact ⟨⟨rfl, Even.zero⟩, fun _ _ _ => Nat.zero_le _⟩
  | case5 c text single pair noQuote ih =>
    obtain ⟨⟨inner, after⟩, split, same⟩ := Option.map_eq_some_iff.1 found
    cases same
    have noSlash := ne_backslash single pair
    exact (ih split).append (even_backslashes_plain noSlash) fun _ _ closes =>
      closes.plain noQuote noSlash

theorem not_closes_of_splitBody? {text : List Char} (absent : splitBody? text = none)
    (body rest : List Char) : ¬Closes text body rest := by
  intro closes
  fun_induction splitBody? text generalizing body with
  | case1 => exact closes.ne_nil rfl
  | case2 =>
    obtain ⟨inner, rfl⟩ := closes.exists_cons (by decide)
    exact absurd (List.cons.inj closes.split).2 (by simp)
  | case3 c text ih =>
    obtain ⟨inner, _, closesInner⟩ := closes.escaped
    exact ih (Option.map_eq_none_iff.1 absent) inner closesInner
  | case4 text => cases absent
  | case5 c text single pair noQuote ih =>
    obtain ⟨inner, _, closesInner⟩ := closes.plain noQuote (ne_backslash single pair)
    exact ih (Option.map_eq_none_iff.1 absent) inner closesInner

theorem splitBody?_eq_some_iff {text body rest : List Char} :
    splitBody? text = some (body, rest) ↔ ClosesFirst text body rest := by
  refine ⟨closesFirst_of_splitBody?, fun closing => ?_⟩
  cases found : splitBody? text with
  | none => exact (not_closes_of_splitBody? found body rest closing.closes).elim
  | some split =>
    obtain ⟨rfl, rfl⟩ := (closesFirst_of_splitBody? found).unique closing
    rfl

theorem splitBody?_eq_none_iff {text : List Char} :
    splitBody? text = none ↔ ∀ body rest, ¬Closes text body rest := by
  refine ⟨not_closes_of_splitBody?, fun noneCloses => ?_⟩
  rw [Option.eq_none_iff_forall_ne_some]
  intro split found
  exact noneCloses _ _ (closesFirst_of_splitBody? found).closes

example : splitBody? "a\\\"b\\\\\"\"".toList = some ("a\\\"b\\\\".toList, "\"".toList) := by
  decide

theorem decode_quotes (body : List Char) : decode ('"' :: (body ++ ['"'])) = unescape body := by
  simp [decode, stripQuotes]

end Quoted

namespace Token

/-- What `chars`, a text in its quotes that stands at `position`, becomes with `rest` behind it, and what
is left: a string and the rest, or a wildcard if the rest begins with a star, which the wildcard takes. -/
inductive InQuotes (position : Nat) (chars : List Char) : List Char → Token → List Char → Prop where
  | string {rest : List Char} (noStar : rest.head? ≠ some '*') :
      InQuotes position chars rest
        ⟨.quoted, String.ofList chars, ⟨position, byteWidth chars⟩⟩ rest
  | wildcard {rest : List Char} :
      InQuotes position chars ('*' :: rest)
        ⟨.wildcard, String.ofList (chars ++ ['*']), ⟨position, byteWidth chars + 1⟩⟩ rest

namespace InQuotes

variable {position : Nat} {chars body rest left : List Char} {token : Token}

theorem kind (read : InQuotes position chars rest token left) :
    token.kind = .quoted ∨ token.kind = .wildcard := by
  cases read with
  | string => exact .inl rfl
  | wildcard => exact .inr rfl

/-- The token stands for what is between the quotes, its escapes resolved. -/
theorem value (read : InQuotes position ('"' :: (body ++ ['"'])) rest token left) :
    token.value = String.ofList (Quoted.unescape body) := by
  cases read with
  | string => simp only [Token.value, String.toList_ofList, Quoted.decode_quotes]
  | wildcard =>
    simp only [Token.value, String.toList_ofList, Token.dropStar_append, List.head?_cons, if_true,
      Quoted.decode_quotes]

end InQuotes

end Token

namespace Lexer

variable (position : Nat) (context : LexicalContext)

/-- What an opening quote makes of the text behind it is the next token. -/
theorem next?_quote {kind : Token.Kind} {text chars rest : List Char}
    (found : Lexeme.ofQuote text = ⟨.fixed kind, chars, rest⟩) :
    next? ⟨'"' :: text, position, context, false⟩ =
      some (⟨kind, String.ofList chars, ⟨position, byteWidth chars⟩⟩,
        ⟨rest, position + byteWidth chars, context.after kind, false⟩) := by
  have first : Lexeme.first '"' text = ⟨.fixed kind, chars, rest⟩ := found
  have visible : isBlank '"' = false := by decide
  simp [next?, visible, byteWidth, first, LexicalContext.kindOf]

/-- The reader in front of a text in quotes. -/
theorem exists_inQuotes {text body rest : List Char}
    (found : Quoted.splitBody? text = some (body, rest)) :
    ∃ token left, next? ⟨'"' :: text, position, context, false⟩ =
        some (token, ⟨left, token.span.stop, context.after token.kind, false⟩) ∧
      Token.InQuotes position ('"' :: (body ++ ['"'])) rest token left := by
  have lexeme : Lexeme.ofQuote text =
      Lexeme.withStar (.fixed .quoted) ('"' :: (body ++ ['"'])) rest := by
    rw [Lexeme.ofQuote, found]
  by_cases star : rest.head? = some '*'
  · obtain ⟨after, rfl⟩ := List.head?_eq_some_iff.1 star
    refine ⟨_, _, next?_quote position context lexeme, ?_⟩
    have width : byteWidth ('"' :: (body ++ ['"']) ++ ['*']) =
        byteWidth ('"' :: (body ++ ['"'])) + 1 := byteWidth_append _ ['*']
    rw [width]
    exact .wildcard
  · rw [Lexeme.withStar_of_ne star] at lexeme
    exact ⟨_, _, next?_quote position context lexeme, .string star⟩

/-- Quotes and escapes are exact. A text that is written in quotes is read back to its own closing quote,
whatever stands behind it, and the token stands for the text. Any text behind an opening quote makes a
string, or a wildcard, if and only if some quote in it has an even number of backslashes right in front
of it, and the string ends at the first such quote; if there is none, one broken token takes all that is
left. -/
theorem quotes_exact :
    (∀ (text : String) (rest : List Char), ∃ token left,
      next? ⟨Quoted.encode text.toList ++ rest, position, context, false⟩ =
        some (token, ⟨left, token.span.stop, context.after token.kind, false⟩) ∧
      Token.InQuotes position (Quoted.encode text.toList) rest token left ∧ token.value = text) ∧
    ∀ text : List Char, ∃ token left,
      next? ⟨'"' :: text, position, context, false⟩ =
        some (token, ⟨left, token.span.stop, context.after token.kind, false⟩) ∧
      (token.kind = .quoted ∨ token.kind = .wildcard ↔ ∃ body rest, Quoted.Closes text body rest) ∧
      ((∃ body rest, Quoted.Closes text body rest) → ∃ body rest,
        Quoted.ClosesFirst text body rest ∧
          Token.InQuotes position ('"' :: (body ++ ['"'])) rest token left) ∧
      ((∀ body rest, ¬Quoted.Closes text body rest) →
        token = ⟨.unterminated, String.ofList ('"' :: text),
          ⟨position, byteWidth ('"' :: text)⟩⟩ ∧ left = []) := by
  constructor
  · intro text rest
    obtain ⟨token, left, next, read⟩ := exists_inQuotes position context
      (Quoted.splitBody?_escape text.toList rest)
    refine ⟨token, left, ?_, read, ?_⟩
    · rw [Quoted.encode, List.cons_append, List.append_assoc]
      exact next
    · rw [read.value, Quoted.unescape_escape, String.ofList_toList]
  · intro text
    cases found : Quoted.splitBody? text with
    | some split =>
      obtain ⟨body, rest⟩ := split
      have closing := Quoted.splitBody?_eq_some_iff.1 found
      obtain ⟨token, left, next, read⟩ := exists_inQuotes position context found
      refine ⟨token, left, next, iff_of_true read.kind ⟨body, rest, closing.closes⟩, ?_, ?_⟩
      · exact fun _ => ⟨body, rest, closing, read⟩
      · intro noneCloses
        exact (noneCloses body rest closing.closes).elim
    | none =>
      have noneCloses := Quoted.splitBody?_eq_none_iff.1 found
      have broken : Lexeme.ofQuote text = ⟨.fixed .unterminated, '"' :: text, []⟩ := by
        rw [Lexeme.ofQuote, found]
      have absent : ¬∃ body rest, Quoted.Closes text body rest := by
        rintro ⟨body, rest, closes⟩
        exact noneCloses body rest closes
      exact ⟨_, _, next?_quote position context broken, iff_of_false (by simp) absent,
        fun closes => (absent closes).elim, fun _ => ⟨rfl, rfl⟩⟩

end Lexer

end SearchBox
