import SearchBox.Token.Lexer

/-! One step of the reader of tokens at a time. Where a lexeme is found, one token comes off the
front; blanks only move the position; and the end of the input comes once, last. -/

namespace SearchBox

/-- The kinds that depend on what stands before a word: reserved words, search words and literals
without quotes. -/
def Token.Kind.isPlainWord : Token.Kind → Bool
  | keyword _ | word | number | date | value => true
  | _ => false

namespace Lexeme

theorem withStar_kind {shape : Shape} {text rest : List Char} {kind : Token.Kind}
    (fixed : (withStar shape text rest).shape = .fixed kind) :
    kind = .wildcard ∨ shape = .fixed kind := by
  unfold withStar at fixed
  split at fixed
  · exact .inl (Shape.fixed.inj fixed).symm
  · exact .inr fixed

/-- The characters of a lexeme never make it a plain word of some kind, a field name or the end of the
input. -/
theorem first_shape_ne {kind : Token.Kind}
    (unmarked : kind.isPlainWord = true ∨ kind = .fieldName ∨ kind = .endOfInput) (c : Char)
    (text : List Char) : (first c text).shape ≠ .fixed kind := by
  have starred (shape : Shape) (plain : shape ≠ .fixed kind) (text rest : List Char) :
      (withStar shape text rest).shape ≠ .fixed kind := by
    intro same
    rcases withStar_kind same with rfl | same
    · simp [Token.Kind.isPlainWord] at unmarked
    · exact plain same
  have differs {other : Token.Kind}
      (marked : ¬(other.isPlainWord = true ∨ other = .fieldName ∨ other = .endOfInput)) :
      Shape.fixed other ≠ .fixed kind := by
    rintro same
    cases same
    exact marked unmarked
  unfold first
  split
  case h_5 =>
    unfold ofQuote
    split
    · exact starred _ (differs (by simp [Token.Kind.isPlainWord])) _ _
    · exact differs (by simp [Token.Kind.isPlainWord])
  case h_11 =>
    unfold ofWord
    split
    · exact differs (by simp [Token.Kind.isPlainWord])
    · exact starred .plainWord nofun _ _
  all_goals exact differs (by simp [Token.Kind.isPlainWord])

/-- No lexeme is the end of the input. -/
theorem first_shape_ne_endOfInput (c : Char) (text : List Char) :
    (first c text).shape ≠ .fixed .endOfInput :=
  first_shape_ne (.inr (.inr rfl)) c text

end Lexeme

namespace LexicalContext

theorem literalKind_cases (text : List Char) :
    literalKind text = .number ∨ literalKind text = .date ∨ literalKind text = .value := by
  unfold literalKind
  split
  · exact .inl rfl
  · split
    · exact .inr (.inl rfl)
    · exact .inr (.inr rfl)

theorem isLiteral_literalKind (text : List Char) : (literalKind text).isLiteral = true := by
  rcases literalKind_cases text with kind | kind | kind <;> rw [kind] <;> rfl

theorem literalKind_ne_keyword (text : List Char) (keyword : Keyword) :
    literalKind text ≠ .keyword keyword := by
  rcases literalKind_cases text with kind | kind | kind <;> simp [kind]

/-- A word without a colon behind it is a plain word. -/
theorem isPlainWord_wordKind (context : LexicalContext) {word rest : List Char}
    (noColon : rest.head? ≠ some ':') : (context.wordKind word rest).isPlainWord = true := by
  unfold wordKind
  rw [if_neg noColon]
  split
  · split
    · rfl
    · rcases literalKind_cases word with kind | kind | kind <;> rw [kind] <;> rfl
  · split <;> rfl

/-- Only the characters make a lexeme what is neither a plain word nor a field name. -/
theorem shape_of_kindOf {context : LexicalContext} {lexeme : Lexeme} {kind : Token.Kind}
    (found : context.kindOf lexeme = kind) (marked : kind.isPlainWord = false)
    (noField : kind ≠ .fieldName) : lexeme.shape = .fixed kind := by
  unfold kindOf at found
  split at found
  · next fixed => rw [fixed, found]
  · subst found
    by_cases colon : lexeme.rest.head? = some ':'
    · exact absurd (if_pos colon) noField
    · rw [context.isPlainWord_wordKind colon] at marked
      cases marked

theorem kindOf_ne_endOfInput (context : LexicalContext) {lexeme : Lexeme}
    (running : lexeme.shape ≠ .fixed .endOfInput) : context.kindOf lexeme ≠ .endOfInput :=
  fun ended => running (shape_of_kindOf ended rfl nofun)

end LexicalContext

namespace Lexer

theorem tokens_of_next {lexer later : Lexer} {token : Token}
    (found : lexer.next? = some (token, later)) : lexer.tokens = token :: later.tokens := by
  rw [tokens]
  split
  · next absent => rw [found] at absent; cases absent
  · next token' later' found' => rw [found] at found'; cases found'; rfl

theorem tokens_of_finished {lexer : Lexer} (finished : lexer.finished = true) : lexer.tokens = [] := by
  rw [tokens]
  split
  · rfl
  · next token later found => simp [next?, finished] at found

theorem tokens_congr {lexer lexer' : Lexer} (same : lexer.next? = lexer'.next?) :
    lexer.tokens = lexer'.tokens := by
  rw [tokens, tokens]
  split <;> split <;> simp_all

theorem tokens_nil (position : Nat) (context : LexicalContext) :
    tokens ⟨[], position, context, false⟩ = [Token.atEnd position] := by
  have last : next? ⟨[], position, context, false⟩ =
      some (Token.atEnd position, ⟨[], position, context, true⟩) := rfl
  rw [tokens_of_next last, tokens_of_finished rfl]

/-- A blank moves the position and nothing else. -/
theorem tokens_blank {c : Char} (blank : isBlank c = true) (text : List Char) (position : Nat)
    (context : LexicalContext) : tokens ⟨c :: text, position, context, false⟩ =
      tokens ⟨text, position + c.utf8Size, context, false⟩ := by
  apply tokens_congr
  simp only [next?, List.takeWhile_cons, List.dropWhile_cons, blank, if_true, byteWidth,
    Nat.add_assoc]

/-- The first lexeme of the text ahead becomes the next token. -/
theorem tokens_cons {c : Char} (visible : isBlank c = false) (text : List Char) (position : Nat)
    (context : LexicalContext) : tokens ⟨c :: text, position, context, false⟩ =
      ⟨context.kindOf (Lexeme.first c text), String.ofList (Lexeme.first c text).text,
        ⟨position, byteWidth (Lexeme.first c text).text⟩⟩ ::
      tokens ⟨(Lexeme.first c text).rest, position + byteWidth (Lexeme.first c text).text,
        context.after (context.kindOf (Lexeme.first c text)), false⟩ := by
  apply tokens_of_next
  simp [next?, visible, byteWidth]

/-- The same with the span and the position left open. -/
theorem tokens_of_first {c : Char} {text : List Char} {lexeme : Lexeme}
    (visible : isBlank c = false) (found : Lexeme.first c text = lexeme) (position : Nat)
    (context : LexicalContext) :
    ∃ span position', tokens ⟨c :: text, position, context, false⟩ =
      ⟨context.kindOf lexeme, String.ofList lexeme.text, span⟩ ::
        tokens ⟨lexeme.rest, position', context.after (context.kindOf lexeme), false⟩ := by
  subst found
  exact ⟨_, _, tokens_cons visible text position context⟩

/-- The tokens of a text, up to the end of the input, which is none of them. -/
theorem tokens_end (lexer : Lexer) (running : lexer.finished = false) :
    ∃ body stop, lexer.tokens = body ++ [Token.atEnd stop] ∧
      ∀ token ∈ body, token.kind ≠ .endOfInput := by
  obtain ⟨text, position, context, finished⟩ := lexer
  obtain rfl : finished = false := running
  induction remaining : text.length using Nat.strongRecOn generalizing text position context with
  | ind size ih =>
    match text with
    | [] => exact ⟨[], position, tokens_nil position context, by simp⟩
    | c :: text =>
      simp only [List.length_cons] at remaining
      by_cases blank : isBlank c = true
      · rw [tokens_blank blank]
        exact ih text.length (by omega) text _ context rfl
      · have visible : isBlank c = false := by simpa using blank
        have shorter := Lexeme.first_rest_length_le c text
        obtain ⟨body, stop, same, inside⟩ := ih _ (by omega) (Lexeme.first c text).rest
          (position + byteWidth (Lexeme.first c text).text)
          (context.after (context.kindOf (Lexeme.first c text))) rfl
        refine ⟨_ :: body, stop, by rw [tokens_cons visible, same]; rfl, ?_⟩
        simp only [List.mem_cons, forall_eq_or_imp]
        exact ⟨context.kindOf_ne_endOfInput (Lexeme.first_shape_ne_endOfInput c text), inside⟩

/-- No token in front of another one is the end of the input. -/
theorem running_of_before {lexer : Lexer} {before later : List Token} {token : Token}
    (running : lexer.finished = false) (read : lexer.tokens = before ++ token :: later) :
    ∀ other ∈ before, other.kind ≠ .endOfInput := by
  obtain ⟨body, stop, same, inside⟩ := tokens_end lexer running
  intro other member
  apply inside
  have front : body = before ++ (token :: later).dropLast := by
    rw [← List.dropLast_append_of_ne_nil (List.cons_ne_nil token later), ← read, same,
      List.dropLast_concat]
  rw [front]
  exact List.mem_append_left _ member

/-- What holds of the end of the input and of every lexeme in every context holds of all tokens. -/
theorem forall_tokens {holds : Token → Prop} (ending : ∀ length, holds (.atEnd length))
    (lexemes : ∀ c text (context : LexicalContext) span, holds ⟨context.kindOf (Lexeme.first c text),
      String.ofList (Lexeme.first c text).text, span⟩)
    (lexer : Lexer) (running : lexer.finished = false) : ∀ token ∈ lexer.tokens, holds token := by
  obtain ⟨text, position, context, finished⟩ := lexer
  obtain rfl : finished = false := running
  induction remaining : text.length using Nat.strongRecOn generalizing text position context with
  | ind size ih =>
    match text with
    | [] => simpa [tokens_nil] using ending position
    | c :: text =>
      simp only [List.length_cons] at remaining
      by_cases blank : isBlank c = true
      · rw [tokens_blank blank]
        exact ih text.length (by omega) text _ context rfl
      · have shorter := Lexeme.first_rest_length_le c text
        rw [tokens_cons (by simpa using blank)]
        intro token member
        rcases List.mem_cons.1 member with rfl | later
        · exact lexemes c text context _
        · exact ih _ (by omega) _ _ _ rfl token later

end Lexer

end SearchBox
