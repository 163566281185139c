import SearchBox.Expression.Canonical
import SearchBox.Proofs.Grammar.Derivation
import SearchBox.Proofs.Lexing.Steps

/-! Pieces of canonical text, read back. A word or a text in quotes is cut off whole if what follows
it does not run into it, and it stands for the text it was written for. -/

namespace SearchBox

namespace Quoted

theorem splitBody?_escape (text rest : List Char) :
    splitBody? (escape text ++ '"' :: rest) = some (escape text, rest) := by
  induction text with
  | nil => simp [escape, splitBody?]
  | cons c text ih =>
    by_cases special : c = '"' ∨ c = '\\'
    · simp [escape, special, splitBody?, ih]
    · rw [not_or] at special
      simp [escape, special, splitBody?, ih]

theorem unescape_escape (text : List Char) : unescape (escape text) = text := by
  induction text with
  | nil => rfl
  | cons c text ih =>
    by_cases special : c = '"' ∨ c = '\\'
    · simp [escape, special, unescape, ih]
    · have plain := special
      rw [not_or] at plain
      rw [escape, if_neg special, unescape]
      · rw [ih]
      · rintro rfl
        exact (plain.2 rfl).elim
      · rintro _ _ rfl
        exact (plain.2 rfl).elim

theorem decode_encode (text : List Char) : decode (encode text) = text := by
  have strip : stripQuotes (encode text) = escape text := by
    simp [stripQuotes, encode]
  rw [decode, strip, unescape_escape]

end Quoted

/-- What may stand behind a word so that the word ends there. -/
def EndsWord (word rest : List Char) : Prop :=
  splitWord rest = ([], rest) ∧ (word.getLast? = some '.' → rest.head? ≠ some '.')

theorem splitWord_append_of_ends {word rest : List Char} (chars : ∀ c ∈ word, isWordChar c = true)
    (noSpan : containsSpan word = false) (ends : EndsWord word rest) :
    splitWord (word ++ rest) = (word, rest) := by
  obtain ⟨stops, apart⟩ := ends
  induction word with
  | nil => exact stops
  | cons c word ih =>
    simp only [containsSpan, Bool.or_eq_false_iff] at noSpan
    have noSpanHere : startsWithSpan (c :: (word ++ rest)) = false := by
      cases word with
      | nil =>
        cases rest with
        | nil => simp [startsWithSpan]
        | cons d rest =>
          simp only [List.getLast?_singleton, List.head?_cons, ne_eq, Option.some.injEq] at apart
          unfold startsWithSpan
          split
          · next same =>
            simp only [List.nil_append, List.cons.injEq] at same
            exact (apart same.1 same.2.1).elim
          · rfl
      | cons d word =>
        have here := noSpan.1
        unfold startsWithSpan at here ⊢
        split
        · next same =>
          simp only [List.cons_append, List.cons.injEq] at same
          simp [same.1, same.2.1] at here
        · rfl
    have later := ih (fun d member => chars d (by simp [member])) noSpan.2 (by
      intro last
      apply apart
      cases word with
      | nil => simp at last
      | cons d word => simpa using last)
    rw [List.cons_append, splitWord, chars c (by simp), noSpanHere]
    simp [later]

namespace Lexeme

theorem first_wordChar {c : Char} {text : List Char} (char : isWordChar c = true)
    (noSpan : startsWithSpan (c :: text) = false) : first c text = ofWord c text := by
  unfold first
  split
  case h_8 => simp [startsWithSpan] at noSpan
  case h_11 => rfl
  all_goals simp [isWordChar, wordEnds] at char

/-- A word that ends before `rest` is cut off whole; a star there joins it. -/
theorem first_word {c : Char} {word rest : List Char}
    (chars : ∀ d ∈ c :: word, isWordChar d = true) (noSpan : containsSpan (c :: word) = false)
    (ends : EndsWord (c :: word) rest) :
    first c (word ++ rest) = withStar .plainWord (c :: word) rest := by
  have split := splitWord_append_of_ends chars noSpan ends
  rw [List.cons_append] at split
  have noSpanHere : startsWithSpan (c :: (word ++ rest)) = false := by
    rw [splitWord, chars c (by simp)] at split
    cases spanned : startsWithSpan (c :: (word ++ rest)) with
    | false => rfl
    | true => simp [spanned] at split
  rw [first_wordChar (chars c (by simp)) noSpanHere, ofWord, split]

theorem first_encode (text rest : List Char) :
    first '"' (Quoted.escape text ++ '"' :: rest) =
      withStar (.fixed .quoted) (Quoted.encode text) rest := by
  have quote : first '"' (Quoted.escape text ++ '"' :: rest) =
      ofQuote (Quoted.escape text ++ '"' :: rest) := by
    unfold first
    split <;> simp_all
  rw [quote, ofQuote, Quoted.splitBody?_escape]
  rfl

theorem withStar_of_ne {rest : List Char} (noStar : rest.head? ≠ some '*') (shape : Shape)
    (text : List Char) : withStar shape text rest = ⟨shape, text, rest⟩ := by
  unfold withStar
  split
  · simp at noStar
  · rfl

end Lexeme

/-- What stands behind a value in canonical text. -/
def Seam : List Char → Prop
  | [] => True
  | '.' :: '.' :: _ => True
  | c :: _ => c = ' ' ∨ c = ')' ∨ c = ','

namespace Seam

theorem splitWord_eq {rest : List Char} (seam : Seam rest) : splitWord rest = ([], rest) := by
  unfold Seam at seam
  split at seam
  · rfl
  · rfl
  · rcases seam with rfl | rfl | rfl <;> rfl

theorem head?_ne {rest : List Char} (seam : Seam rest) {c : Char} (stands : c = '*' ∨ c = ':') :
    rest.head? ≠ some c := by
  unfold Seam at seam
  split at seam
  · simp
  · rcases stands with rfl | rfl <;> simp
  · rcases stands with rfl | rfl <;> rcases seam with rfl | rfl | rfl <;> simp

theorem blank (text : List Char) : Seam (' ' :: text) :=
  .inl rfl

theorem rightParen (text : List Char) : Seam (')' :: text) :=
  .inr (.inl rfl)

theorem comma (text : List Char) : Seam (',' :: text) :=
  .inr (.inr rfl)

theorem dots (text : List Char) : Seam ('.' :: '.' :: text) :=
  trivial

theorem endsWord {rest : List Char} (seam : Seam rest) {word : List Char}
    (noDot : word.getLast? ≠ some '.') : EndsWord word rest :=
  ⟨seam.splitWord_eq, fun dot => (noDot dot).elim⟩

end Seam

/-! Words that stand without quotes. -/

theorem isBareWord_iff {text : List Char} : isBareWord text = true ↔
    text ≠ [] ∧ containsSpan text = false ∧ ∀ c ∈ text, isWordChar c = true ∧ c ≠ '\\' := by
  simp [isBareWord, and_assoc]

theorem needsQuotes_eq_false_iff {text : List Char} : needsQuotes text = false ↔
    isBareWord text = true ∧ text.head? ≠ some '.' ∧ text.getLast? ≠ some '.' ∧
      Keyword.ofWord? text = none := by
  simp [needsQuotes, and_assoc]

theorem writeValue_ne_nil (value : String) : writeValue value ≠ [] := by
  unfold writeValue
  split
  · simp [Quoted.encode]
  · next bare =>
    exact (isBareWord_iff.1 (needsQuotes_eq_false_iff.1 (by simpa using bare)).1).1

theorem isBlank_of_isWordChar {c : Char} (char : isWordChar c = true) : isBlank c = false := by
  simp only [isWordChar, Bool.and_eq_true, Bool.not_eq_true'] at char
  exact char.1

theorem Token.dropStar_append (text : List Char) : dropStar (text ++ ['*']) = text := by
  simp [dropStar]

namespace Lexer

variable {context : LexicalContext} {rest : List Char}

/-- A word and the star behind it, or a word alone, whichever the lexeme is. -/
theorem tokens_word {word : List Char} {lexeme : Lexeme} (nonempty : word ≠ [])
    (chars : ∀ c ∈ word, isWordChar c = true) (noSpan : containsSpan word = false)
    (ends : EndsWord word rest) (found : Lexeme.withStar .plainWord word rest = lexeme)
    (context : LexicalContext) (position : Nat) :
    ∃ span position', tokens ⟨word ++ rest, position, context, false⟩ =
      ⟨context.kindOf lexeme, String.ofList lexeme.text, span⟩ ::
        tokens ⟨lexeme.rest, position', context.after (context.kindOf lexeme), false⟩ := by
  obtain ⟨c, word, rfl⟩ := List.exists_cons_of_ne_nil nonempty
  exact tokens_of_first (isBlank_of_isWordChar (chars c (by simp)))
    ((Lexeme.first_word chars noSpan ends).trans found) position context

theorem tokens_encode (text : List Char) {lexeme : Lexeme}
    (found : Lexeme.withStar (.fixed .quoted) (Quoted.encode text) rest = lexeme)
    (context : LexicalContext) (position : Nat) :
    ∃ span position', tokens ⟨Quoted.encode text ++ rest, position, context, false⟩ =
      ⟨context.kindOf lexeme, String.ofList lexeme.text, span⟩ ::
        tokens ⟨lexeme.rest, position', context.after (context.kindOf lexeme), false⟩ := by
  rw [Quoted.encode, List.cons_append, List.append_assoc, List.singleton_append]
  exact tokens_of_first (by decide) ((Lexeme.first_encode text rest).trans found) position context

/-- A quoted text stands for the text in it. -/
theorem tokens_quoted (text : String) (seam : Seam rest) (context : LexicalContext)
    (position : Nat) :
    ∃ token : Token, ∃ position', token.kind = .quoted ∧ token.value = text ∧
      tokens ⟨Quoted.encode text.toList ++ rest, position, context, false⟩ =
        token :: tokens ⟨rest, position', context.after .quoted, false⟩ := by
  obtain ⟨span, position', read⟩ := tokens_encode text.toList
    (Lexeme.withStar_of_ne (seam.head?_ne (.inl rfl)) _ _) context position
  refine ⟨_, position', ?_, ?_, read⟩
  · rfl
  · simp [Token.value, LexicalContext.kindOf, Quoted.decode_encode]

theorem tokens_bareValue (value : String) (bare : needsQuotes value.toList = false)
    (seam : Seam rest) (expects : context.expectsValue = true) (position : Nat) :
    ∃ token : Grammar.ValueToken, ∃ position', token.val.value = value ∧
      tokens ⟨value.toList ++ rest, position, context, false⟩ =
        token.val :: tokens ⟨rest, position', context.after token.val.kind, false⟩ := by
  obtain ⟨word, _, noDot, noKeyword⟩ := needsQuotes_eq_false_iff.1 bare
  obtain ⟨nonempty, noSpan, chars⟩ := isBareWord_iff.1 word
  obtain ⟨span, position', read⟩ := tokens_word nonempty (fun c member => (chars c member).1)
    noSpan (seam.endsWord noDot) (Lexeme.withStar_of_ne (seam.head?_ne (.inl rfl)) _ _) context
    position
  have noList : context.opensList value.toList rest = false := by
    have differs : sameIgnoringAsciiCase value.toList "IN".toList = false := by
      have none := List.find?_eq_none.1 noKeyword .isIn (by decide)
      simpa [Keyword.text] using none
    rw [LexicalContext.opensList, differs, Bool.and_false, Bool.false_and]
  have kind : context.kindOf ⟨.plainWord, value.toList, rest⟩ =
      LexicalContext.literalKind value.toList := by
    simp [LexicalContext.kindOf, LexicalContext.wordKind, seam.head?_ne (.inr rfl), expects, noList]
  rw [kind, String.ofList_toList] at read
  refine ⟨⟨⟨LexicalContext.literalKind value.toList, value, span⟩, ?_⟩, position', ?_, read⟩
  · exact LexicalContext.isLiteral_literalKind value.toList
  · simp only [Token.value]
    rcases LexicalContext.literalKind_cases value.toList with kind | kind | kind <;> rw [kind]

/-- A written value, where a value is expected, is one token that stands for it. -/
theorem tokens_writeValue (value : String) (seam : Seam rest)
    (expects : context.expectsValue = true) (position : Nat) :
    ∃ token : Grammar.ValueToken, ∃ position', token.val.value = value ∧
      tokens ⟨writeValue value ++ rest, position, context, false⟩ =
        token.val :: tokens ⟨rest, position', context.after token.val.kind, false⟩ := by
  unfold writeValue
  split
  · obtain ⟨token, position', kind, stands, read⟩ :=
      tokens_quoted value seam context position
    exact ⟨⟨token, by rw [kind]; rfl⟩, position', stands, kind ▸ read⟩
  · next bare => exact tokens_bareValue value (by simpa using bare) seam expects position

/-- A written value, where none is expected, is a search word or phrase. -/
theorem tokens_writeTerm (value : String) (seam : Seam rest)
    (unexpected : context.expectsValue = false) (position : Nat) :
    ∃ token : Grammar.TermToken, ∃ position', token.val.value = value ∧
      (token.val.kind = .quoted ∨ token.val.kind = .word) ∧
      tokens ⟨writeValue value ++ rest, position, context, false⟩ =
        token.val :: tokens ⟨rest, position', context.after token.val.kind, false⟩ := by
  unfold writeValue
  split
  · obtain ⟨token, position', kind, stands, read⟩ :=
      tokens_quoted value seam context position
    exact ⟨⟨token, .inr (by rw [kind]; rfl)⟩, position', stands, .inl kind, kind ▸ read⟩
  · next bare =>
    obtain ⟨word, _, noDot, noKeyword⟩ := needsQuotes_eq_false_iff.1 (by simpa using bare)
    obtain ⟨nonempty, noSpan, chars⟩ := isBareWord_iff.1 word
    obtain ⟨span, position', read⟩ := tokens_word nonempty (fun c member => (chars c member).1)
      noSpan (seam.endsWord noDot) (Lexeme.withStar_of_ne (seam.head?_ne (.inl rfl)) _ _) context
      position
    have kind : context.kindOf ⟨.plainWord, value.toList, rest⟩ = .word := by
      simp [LexicalContext.kindOf, LexicalContext.wordKind, seam.head?_ne (.inr rfl), unexpected,
        noKeyword]
    rw [kind, String.ofList_toList] at read
    exact ⟨⟨⟨.word, value, span⟩, .inl rfl⟩, position', rfl, .inr rfl, read⟩

/-- A written beginning with its star is a wildcard, in quotes unless it is written bare. -/
theorem tokens_writeStem (stem : String) (quoted : Bool) (rest : List Char)
    (context : LexicalContext) (position : Nat) :
    ∃ token : Grammar.Mark .wildcard, ∃ position', token.val.value = stem ∧
      token.val.isQuoted = (quoted || !isBareWord stem.toList) ∧
      tokens ⟨(if quoted || !isBareWord stem.toList then Quoted.encode stem.toList
          else stem.toList) ++ '*' :: rest, position, context, false⟩ =
        token.val :: tokens ⟨rest, position', context.after .wildcard, false⟩ := by
  split
  · next inQuotes =>
    have starred : Lexeme.withStar (.fixed .quoted) (Quoted.encode stem.toList) ('*' :: rest) =
        ⟨.fixed .wildcard, Quoted.encode stem.toList ++ ['*'], rest⟩ := rfl
    obtain ⟨span, position', read⟩ := tokens_encode stem.toList starred context position
    have quote : (Quoted.encode stem.toList).head? = some '"' := rfl
    refine ⟨⟨_, rfl⟩, position', ?_, ?_, read⟩
    · simp only [Token.value, LexicalContext.kindOf, String.toList_ofList, Token.dropStar_append,
        Quoted.decode_encode]
      rw [if_pos quote, String.ofList_toList]
    · rw [inQuotes]
      simp [Token.isQuoted, Quoted.encode]
  · next bare =>
    obtain ⟨unquoted, word⟩ : quoted = false ∧ isBareWord stem.toList = true := by simpa using bare
    obtain ⟨nonempty, noSpan, chars⟩ := isBareWord_iff.1 word
    have ends : EndsWord stem.toList ('*' :: rest) := ⟨rfl, by simp⟩
    obtain ⟨span, position', read⟩ := tokens_word nonempty (fun c member => (chars c member).1)
      noSpan ends rfl context position
    have noQuote : stem.toList.head? ≠ some '"' := by
      intro quote
      have char := (chars '"' (List.mem_of_mem_head? quote)).1
      simp [isWordChar, wordEnds] at char
    refine ⟨⟨_, rfl⟩, position', ?_, ?_, read⟩
    · simp only [Token.value, LexicalContext.kindOf, Lexeme.withStar, String.toList_ofList,
        Token.dropStar_append]
      rw [if_neg noQuote, String.ofList_toList]
    · obtain ⟨c, after, same⟩ := List.exists_cons_of_ne_nil nonempty
      rw [same] at noQuote
      rw [unquoted, word]
      simpa [Token.isQuoted, Lexeme.withStar, same] using noQuote

end Lexer

/-! Words as they are cut off a text. -/

theorem splitWord_word (text : List Char) : (∀ c ∈ (splitWord text).1, isWordChar c = true) ∧
    containsSpan (splitWord text).1 = false := by
  fun_induction splitWord text with
  | case1 => exact ⟨by simp, rfl⟩
  | case2 c text here split ih =>
    simp only [Bool.and_eq_true, Bool.not_eq_true'] at here
    refine ⟨by simpa [here.1] using ih.1, ?_⟩
    have noSpanHere : startsWithSpan (c :: split.1) = false := by
      have apart := here.2
      unfold startsWithSpan
      split
      · next same =>
        rw [← splitWord_append text, (List.cons.inj same).1, (List.cons.inj same).2] at apart
        simp [startsWithSpan] at apart
      · rfl
    rw [containsSpan, noSpanHere]
    exact ih.2
  | case3 => exact ⟨by simp, rfl⟩

/-- An unquoted beginning is a word. -/
def Token.WordStem (token : Token) : Prop :=
  token.kind = .wildcard → token.isQuoted = false → token.value.toList ≠ [] ∧
    (∀ c ∈ token.value.toList, isWordChar c = true) ∧ containsSpan token.value.toList = false

theorem Token.wordStem_of_kind {token : Token} (kind : token.kind ≠ .wildcard) : token.WordStem :=
  fun wildcard => (kind wildcard).elim

theorem Token.wordStem_append {stem : List Char} {span : Span} (nonempty : stem ≠ [])
    (chars : ∀ c ∈ stem, isWordChar c = true) (noSpan : containsSpan stem = false) :
    WordStem ⟨.wildcard, String.ofList (stem ++ ['*']), span⟩ := by
  have noQuote : stem.head? ≠ some '"' := by
    intro quote
    have char := chars '"' (List.mem_of_mem_head? quote)
    simp [isWordChar, wordEnds] at char
  intro _ _
  have stands : (Token.value ⟨.wildcard, String.ofList (stem ++ ['*']), span⟩).toList = stem := by
    simp [Token.value, Token.dropStar_append, noQuote]
  rw [stands]
  exact ⟨nonempty, chars, noSpan⟩

namespace Lexeme

theorem withStar_text {shape : Shape} {text rest : List Char} (plain : shape ≠ .fixed .wildcard)
    (starred : (withStar shape text rest).shape = .fixed .wildcard) :
    (withStar shape text rest).text = text ++ ['*'] := by
  unfold withStar at starred ⊢
  split at starred
  · rfl
  · exact (plain starred).elim

/-- A lexeme that is a wildcard is in quotes, or a word with its star. -/
theorem first_wildcard {c : Char} {text : List Char}
    (wildcard : (first c text).shape = .fixed .wildcard) :
    (first c text).text.head? = some '"' ∨
      ∃ stem, (first c text).text = stem ++ ['*'] ∧ stem ≠ [] ∧
        (∀ d ∈ stem, isWordChar d = true) ∧ containsSpan stem = false := by
  unfold first at wildcard ⊢
  split at wildcard
  case h_5 =>
    unfold ofQuote at wildcard ⊢
    split at wildcard
    · rw [withStar_text (by simp) wildcard]
      exact .inl rfl
    · cases wildcard
  case h_11 =>
    unfold ofWord at wildcard ⊢
    have word := splitWord_word (c :: text)
    split at wildcard
    · cases wildcard
    · next stem rest nonempty split =>
      rw [split] at word
      exact .inr ⟨stem, withStar_text (by simp) wildcard, nonempty, word⟩
  all_goals cases wildcard

end Lexeme

theorem Lexer.wordStem_tokens (input : String) : ∀ token ∈ tokenize input, token.WordStem := by
  apply forall_tokens
  · exact fun length => Token.wordStem_of_kind nofun
  · intro c text context span wildcard unquoted
    have kind : context.kindOf (Lexeme.first c text) = .wildcard := wildcard
    rcases Lexeme.first_wildcard (LexicalContext.shape_of_kindOf kind rfl nofun) with
      quote | ⟨stem, written, nonempty, chars, noSpan⟩
    · simp [Token.isQuoted, quote] at unquoted
    · rw [kind, written] at unquoted ⊢
      exact Token.wordStem_append nonempty chars noSpan rfl unquoted
  · rfl

end SearchBox
