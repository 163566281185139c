import SearchBox.Proofs.Canonical.Clauses
import SearchBox.Proofs.Grammar.Spans

/-! A part of a text, read alone. The end of a lexeme depends on no more than what stands right behind
it, and the kind of a word on no more than what the next token begins with. So the tokens of a part
of a text are those that the text has there, if the part begins where an operand does. -/

namespace SearchBox

theorem startsWithSpan_iff {text : List Char} :
    startsWithSpan text = true ↔ ∃ rest, text = '.' :: '.' :: rest := by
  constructor
  · intro spanned
    unfold startsWithSpan at spanned
    split at spanned
    · exact ⟨_, rfl⟩
    · cases spanned
  · rintro ⟨rest, rfl⟩
    rfl

theorem splitWord_cons_iff {c : Char} {text : List Char} : splitWord (c :: text) = ([], c :: text) ↔
    isWordChar c = false ∨ startsWithSpan (c :: text) = true := by
  cases char : isWordChar c <;> cases spanned : startsWithSpan (c :: text) <;>
    simp [splitWord, char, spanned]

/-- What may stand behind a lexeme in the place of `rest`: nothing if nothing stood there, the end of a
word if a word ended there, and no character that joins a lexeme unless it stood there. -/
structure Replaces (kept rest : List Char) : Prop where
  eq_nil : rest = [] → kept = []
  splitWord_eq : splitWord rest = ([], rest) → splitWord kept = ([], kept)
  head?_ne : ∀ c ∈ ['*', '=', '.'], rest.head? ≠ some c → kept.head? ≠ some c

theorem Replaces.endsWord {kept rest word : List Char} (replaces : Replaces kept rest)
    (ends : EndsWord word rest) : EndsWord word kept :=
  ⟨replaces.splitWord_eq ends.1, fun dot => replaces.head?_ne '.' (by simp) (ends.2 dot)⟩

/-- The text `kept` is a beginning of `rest` and does not part the dots of a range at the front. -/
def CutFrom (kept rest : List Char) : Prop :=
  (∃ after, rest = kept ++ after) ∧ (kept = ['.'] → startsWithSpan rest = false)

namespace CutFrom

variable {kept rest : List Char}

theorem nil (rest : List Char) : CutFrom [] rest :=
  ⟨⟨rest, rfl⟩, nofun⟩

theorem head?_eq (cut : CutFrom kept rest) (nonempty : kept ≠ []) : kept.head? = rest.head? := by
  obtain ⟨⟨after, rfl⟩, _⟩ := cut
  obtain ⟨c, kept, rfl⟩ := List.exists_cons_of_ne_nil nonempty
  rfl

theorem splitWord_eq (cut : CutFrom kept rest) (stops : splitWord rest = ([], rest)) :
    splitWord kept = ([], kept) := by
  obtain ⟨⟨after, rfl⟩, dots⟩ := cut
  cases kept with
  | nil => rfl
  | cons c kept =>
    rw [splitWord_cons_iff]
    rcases splitWord_cons_iff.1 stops with char | spanned
    · exact .inl char
    · obtain ⟨rest, same⟩ := startsWithSpan_iff.1 spanned
      obtain ⟨rfl, dotted⟩ := List.cons.inj same
      cases kept with
      | nil => exact absurd spanned (by simpa using dots rfl)
      | cons d kept =>
        obtain ⟨rfl, _⟩ := List.cons.inj dotted
        exact .inr rfl

theorem replaces (cut : CutFrom kept rest) : Replaces kept rest := by
  refine ⟨?_, cut.splitWord_eq, ?_⟩
  · rintro rfl
    obtain ⟨⟨after, same⟩, _⟩ := cut
    exact (List.append_eq_nil_iff.1 same.symm).1
  · intro c _ absent
    by_cases nonempty : kept = []
    · simp [nonempty]
    · rwa [cut.head?_eq nonempty]

end CutFrom

theorem splitWord_endsWord (text : List Char) : EndsWord (splitWord text).1 (splitWord text).2 := by
  fun_induction splitWord text with
  | case1 => exact ⟨rfl, by simp⟩
  | case2 c text here split ih =>
    refine ⟨ih.1, ?_⟩
    cases word : split.1 with
    | nil =>
      have whole : split.2 = text := by
        have append := splitWord_append text
        rwa [word, List.nil_append] at append
      intro dot next
      rw [whole] at next
      obtain ⟨rest, rfl⟩ := List.head?_eq_some_iff.1 next
      obtain rfl : c = '.' := by simpa using dot
      simp [startsWithSpan] at here
    | cons d word' =>
      intro dot
      apply ih.2
      rwa [word, List.getLast?_cons_cons] at *
  | case3 c text here =>
    refine ⟨?_, by simp⟩
    rw [splitWord, if_neg here]

theorem Quoted.splitBody?_body {text body rest : List Char}
    (found : splitBody? text = some (body, rest)) (rest' : List Char) :
    splitBody? (body ++ '"' :: rest') = some (body, rest') := by
  fun_induction splitBody? text generalizing body with
  | case1 => cases found
  | case2 => cases found
  | case3 c text ih =>
    obtain ⟨⟨inner, after⟩, split, same⟩ := Option.map_eq_some_iff.1 found
    cases same
    simp [splitBody?, ih split]
  | case4 text =>
    cases found
    simp [splitBody?]
  | case5 c text single double plain ih =>
    obtain ⟨⟨inner, after⟩, split, same⟩ := Option.map_eq_some_iff.1 found
    cases same
    have unescaped : c ≠ '\\' := by
      intro escape
      cases text with
      | nil => exact single escape rfl
      | cons d text => exact double d text escape rfl
    simp [splitBody?, unescaped, plain, ih split]

namespace Lexeme

/-- A star behind a lexeme belongs to it, and stays there when what stands behind it is replaced. -/
theorem withStar_replaced {shape : Shape} {text rest kept : List Char}
    (replaces : Replaces kept (withStar shape text rest).rest) :
    ∃ star, (withStar shape text rest).text = text ++ star ∧
      (star = ['*'] ∨ star = [] ∧ Replaces kept rest) ∧
      withStar shape text (star ++ kept) =
        ⟨(withStar shape text rest).shape, (withStar shape text rest).text, kept⟩ := by
  by_cases starred : rest.head? = some '*'
  · obtain ⟨after, rfl⟩ := List.head?_eq_some_iff.1 starred
    exact ⟨['*'], rfl, .inl rfl, rfl⟩
  · rw [withStar_of_ne starred] at replaces ⊢
    have noStar := replaces.head?_ne '*' (by simp) starred
    exact ⟨[], by simp, .inr ⟨rfl, replaces⟩, withStar_of_ne noStar _ _⟩

theorem ofQuote_replaced (text : List Char) {kept : List Char}
    (replaces : Replaces kept (ofQuote text).rest) :
    ∃ word, (ofQuote text).text = '"' :: word ∧
      first '"' (word ++ kept) = ⟨(ofQuote text).shape, (ofQuote text).text, kept⟩ := by
  have quote (after : List Char) : first '"' after = ofQuote after := by
    unfold first
    split <;> simp_all
  simp only [quote]
  unfold ofQuote at replaces ⊢
  cases found : Quoted.splitBody? text with
  | none =>
    simp only [found] at replaces ⊢
    obtain rfl := replaces.eq_nil rfl
    exact ⟨text, rfl, by rw [List.append_nil, found]⟩
  | some split =>
    obtain ⟨body, rest⟩ := split
    simp only [found] at replaces ⊢
    obtain ⟨star, written, _, again⟩ := withStar_replaced replaces
    refine ⟨body ++ '"' :: star, by simp [written], ?_⟩
    have body' := Quoted.splitBody?_body found (star ++ kept)
    rw [List.append_assoc, List.cons_append, body']
    exact again

theorem ofWord_replaced {c : Char} {text : List Char} (char : isWordChar c = true)
    (noSpan : startsWithSpan (c :: text) = false) {kept : List Char}
    (replaces : Replaces kept (ofWord c text).rest) :
    ∃ word, (ofWord c text).text = c :: word ∧
      first c (word ++ kept) = ⟨(ofWord c text).shape, (ofWord c text).text, kept⟩ := by
  have split : splitWord (c :: text) = (c :: (splitWord text).1, (splitWord text).2) := by
    simp [splitWord, char, noSpan]
  have whole : ofWord c text = withStar .plainWord (c :: (splitWord text).1) (splitWord text).2 := by
    rw [ofWord, split]
  obtain ⟨chars, apart⟩ := splitWord_word (c :: text)
  have ends := splitWord_endsWord (c :: text)
  rw [split] at chars apart ends
  rw [whole] at replaces ⊢
  obtain ⟨star, written, followed, again⟩ := withStar_replaced replaces
  have endsHere : EndsWord (c :: (splitWord text).1) (star ++ kept) := by
    rcases followed with rfl | ⟨rfl, replaces⟩
    · exact ⟨rfl, by simp⟩
    · exact replaces.endsWord ends
  refine ⟨(splitWord text).1 ++ star, written, ?_⟩
  rw [List.append_assoc, first_word chars apart endsHere, again]

/-- A lexeme stays as it is when what stands behind it is replaced. -/
theorem first_replaced (c : Char) (text : List Char) {kept : List Char}
    (replaces : Replaces kept (first c text).rest) :
    ∃ word, (first c text).text = c :: word ∧
      first c (word ++ kept) = ⟨(first c text).shape, (first c text).text, kept⟩ := by
  by_cases char : isWordChar c = true
  · by_cases spanned : startsWithSpan (c :: text) = true
    · obtain ⟨rest, same⟩ := startsWithSpan_iff.1 spanned
      obtain ⟨rfl, rfl⟩ := List.cons.inj same
      exact ⟨['.'], rfl, rfl⟩
    · have noSpan : startsWithSpan (c :: text) = false := by simpa using spanned
      rw [first_wordChar char noSpan] at replaces ⊢
      exact ofWord_replaced char noSpan replaces
  · unfold first at replaces
    split at replaces
    case h_5 => exact ofQuote_replaced text replaces
    case h_6 => exact ⟨['='], rfl, rfl⟩
    case h_7 => exact ⟨['='], rfl, rfl⟩
    case h_8 => exact ⟨['.'], rfl, rfl⟩
    case h_9 above =>
      have apart : text.head? ≠ some '=' := by
        intro equals
        obtain ⟨rest, rfl⟩ := List.head?_eq_some_iff.1 equals
        exact above rest rfl
      rw [first_above apart]
      exact ⟨[], rfl, first_above (replaces.head?_ne '=' (by simp) apart)⟩
    case h_10 below =>
      have apart : text.head? ≠ some '=' := by
        intro equals
        obtain ⟨rest, rfl⟩ := List.head?_eq_some_iff.1 equals
        exact below rest rfl
      rw [first_below apart]
      exact ⟨[], rfl, first_below (replaces.head?_ne '=' (by simp) apart)⟩
    case h_11 =>
      have invalid (after : List Char) : first c after = ⟨.fixed .invalid, [c], after⟩ := by
        have noWord : splitWord (c :: after) = ([], c :: after) :=
          splitWord_cons_iff.2 (.inl (by simpa using char))
        have noDot : c ≠ '.' := by
          rintro rfl
          exact char (by decide)
        unfold first ofWord
        split <;> simp_all
      rw [invalid]
      exact ⟨[], rfl, invalid kept⟩
    all_goals exact ⟨[], rfl, rfl⟩

end Lexeme

namespace LexicalContext

variable {context : LexicalContext} {shape : Shape} {text kept rest : List Char}

/-- Of what stands behind a lexeme its kind depends only on a colon and on a parenthesis behind blanks. -/
theorem kindOf_congr (colon : kept.head? = some ':' ↔ rest.head? = some ':')
    (opening : (kept.dropWhile isBlank).head? = some '(' ↔ (rest.dropWhile isBlank).head? = some '(') :
    context.kindOf ⟨shape, text, kept⟩ = context.kindOf ⟨shape, text, rest⟩ := by
  have opening' : ((kept.dropWhile isBlank).head? == some '(') =
      ((rest.dropWhile isBlank).head? == some '(') := by
    rw [Bool.eq_iff_iff, beq_iff_eq, beq_iff_eq, opening]
  cases shape with
  | fixed kind => rfl
  | plainWord =>
    simp only [kindOf, wordKind, opensList, opening']
    exact ite_congr (propext colon) (fun _ => rfl) fun _ => rfl

/-- The kind of a lexeme stays as it is when the next token begins in what is kept. -/
theorem kindOf_cut {gap later : List Char} {c : Char} (blank : ∀ d ∈ gap, isBlank d = true)
    (visible : isBlank c = false) (cut : CutFrom (gap ++ c :: later) rest) :
    context.kindOf ⟨shape, text, gap ++ c :: later⟩ = context.kindOf ⟨shape, text, rest⟩ := by
  apply kindOf_congr
  · rw [cut.head?_eq (by simp)]
  · obtain ⟨⟨after, rfl⟩, _⟩ := cut
    rw [List.append_assoc, List.cons_append, List.dropWhile_append_of_pos blank,
      List.dropWhile_append_of_pos blank, List.dropWhile_cons_of_neg (by simp [visible]),
      List.dropWhile_cons_of_neg (by simp [visible])]
    rfl

/-- The same when nothing is kept, unless the kind comes from what is gone. -/
theorem kindOf_nil (noField : context.kindOf ⟨shape, text, rest⟩ ≠ .fieldName)
    (noList : context.kindOf ⟨shape, text, rest⟩ ≠ .keyword .isIn) :
    context.kindOf ⟨shape, text, []⟩ = context.kindOf ⟨shape, text, rest⟩ := by
  cases shape with
  | fixed kind => rfl
  | plainWord =>
    simp only [kindOf, wordKind] at noField noList ⊢
    by_cases colon : rest.head? = some ':'
    · simp [colon] at noField
    · by_cases opens : context.expectsValue = true ∧ context.opensList text rest = true
      · simp [colon, opens] at noList
      · have closed : context.opensList text [] = false := by simp [opensList]
        cases expects : context.expectsValue <;> simp_all

/-- The context after a row of tokens. -/
def through (context : LexicalContext) (tokens : List Token) : LexicalContext :=
  tokens.foldl (fun context token => context.after token.kind) context

@[simp] theorem through_nil (context : LexicalContext) : context.through [] = context :=
  rfl

@[simp] theorem through_cons (context : LexicalContext) (token : Token) (tokens : List Token) :
    context.through (token :: tokens) = (context.after token.kind).through tokens :=
  rfl

@[simp] theorem through_append (context : LexicalContext) (first second : List Token) :
    context.through (first ++ second) = (context.through first).through second :=
  List.foldl_append

/-- All places where an operand begins are alike. -/
theorem AtOperand.kindOf_eq (place : context.AtOperand) (lexeme : Lexeme) :
    context.kindOf lexeme = LexicalContext.start.kindOf lexeme := by
  cases found : lexeme.shape with
  | fixed kind => simp [kindOf, found]
  | plainWord => simp [kindOf, found, wordKind, place.1, AtOperand.start.1]

theorem AtOperand.after_eq (place : context.AtOperand) (kind : Token.Kind) :
    context.after kind = LexicalContext.start.after kind := by
  have list := place.inList_eq
  have noList := place.2
  unfold LexicalContext.after
  cases kind <;> simp_all [LexicalContext.start]

end LexicalContext

def Span.moved (distance : Nat) (span : Span) : Span :=
  ⟨span.position + distance, span.length⟩

def Token.moved (distance : Nat) (token : Token) : Token :=
  { token with span := token.span.moved distance }

namespace Lexer

variable {text : List Char} {position : Nat} {context : LexicalContext}

theorem tokens_gap {gap : List Char} (blank : ∀ c ∈ gap, isBlank c = true) (text : List Char)
    (position : Nat) (context : LexicalContext) :
    tokens ⟨gap ++ text, position, context, false⟩ =
      tokens ⟨text, position + byteWidth gap, context, false⟩ := by
  induction gap generalizing position with
  | nil => rfl
  | cons c gap ih =>
    rw [List.cons_append, tokens_blank (blank c (by simp)), ih (fun d member => blank d (by simp [member])),
      byteWidth, Nat.add_assoc]

/-- A token that is not the last one is made from the first lexeme behind the blanks. -/
theorem lexeme_of_tokens {token : Token} {later : List Token} (running : token.kind ≠ .endOfInput)
    (read : tokens ⟨text, position, context, false⟩ = token :: later) :
    ∃ gap c rest, text = gap ++ c :: rest ∧ (∀ d ∈ gap, isBlank d = true) ∧ isBlank c = false ∧
      token = ⟨context.kindOf (Lexeme.first c rest), String.ofList (Lexeme.first c rest).text,
        ⟨position + byteWidth gap, byteWidth (Lexeme.first c rest).text⟩⟩ ∧
      later = tokens ⟨(Lexeme.first c rest).rest, token.span.stop, context.after token.kind, false⟩ := by
  have split := (List.takeWhile_append_dropWhile (p := isBlank) (l := text)).symm
  have blank : ∀ d ∈ text.takeWhile isBlank, isBlank d = true := List.all_eq_true.1 List.all_takeWhile
  rw [split, tokens_gap blank] at read
  cases ahead : text.dropWhile isBlank with
  | nil =>
    rw [ahead, tokens_nil] at read
    cases read
    exact (running rfl).elim
  | cons c rest =>
    have visible : isBlank c = false := by
      have first := List.head?_dropWhile_not isBlank text
      simpa [ahead] using first
    rw [ahead, tokens_cons visible] at read
    obtain ⟨rfl, rfl⟩ := List.cons.inj read
    exact ⟨_, c, rest, ahead ▸ split, blank, visible, rfl, rfl⟩

/-- Tokens of a text that stands elsewhere are those tokens elsewhere. -/
theorem tokens_moved (text : List Char) (position distance : Nat) (context : LexicalContext) :
    tokens ⟨text, position + distance, context, false⟩ =
      (tokens ⟨text, position, context, false⟩).map (Token.moved distance) := by
  induction size : text.length using Nat.strongRecOn generalizing text position context with
  | ind size ih =>
    match text with
    | [] => rw [tokens_nil, tokens_nil]; rfl
    | c :: text =>
      rw [List.length_cons] at size
      by_cases blank : isBlank c = true
      · rw [tokens_blank blank, tokens_blank blank, Nat.add_right_comm]
        exact ih text.length (by omega) text _ context rfl
      · have shorter := Lexeme.first_rest_length_le c text
        have visible : isBlank c = false := by simpa using blank
        rw [tokens_cons visible, tokens_cons visible, List.map_cons, Nat.add_right_comm]
        congr 1
        exact ih _ (by omega) _ _ _ rfl

/-- A token at the front stays as it is when the text is cut behind it, if its kind does. -/
theorem tokens_cons_cut {gap : List Char} {c : Char} {rest kept : List Char}
    (blank : ∀ d ∈ gap, isBlank d = true) (visible : isBlank c = false)
    (cut : CutFrom kept (Lexeme.first c rest).rest)
    (kind : context.kindOf ⟨(Lexeme.first c rest).shape, (Lexeme.first c rest).text, kept⟩ =
      context.kindOf (Lexeme.first c rest)) (position : Nat) :
    tokens ⟨gap ++ ((Lexeme.first c rest).text ++ kept), position, context, false⟩ =
      ⟨context.kindOf (Lexeme.first c rest), String.ofList (Lexeme.first c rest).text,
        ⟨position + byteWidth gap, byteWidth (Lexeme.first c rest).text⟩⟩ ::
      tokens ⟨kept, position + byteWidth gap + byteWidth (Lexeme.first c rest).text,
        context.after (context.kindOf (Lexeme.first c rest)), false⟩ := by
  obtain ⟨word, written, again⟩ := Lexeme.first_replaced c rest cut.replaces
  rw [tokens_gap blank, written, List.cons_append, tokens_cons visible, again, kind, written]

/-- A beginning of a text that has the same first token does not part the dots of a range. -/
theorem cutFrom_of_tokens {kept after : List Char} {token : Token} {later later' : List Token}
    (whole : tokens ⟨kept ++ after, position, context, false⟩ = token :: later)
    (alone : tokens ⟨kept, position, context, false⟩ = token :: later') :
    CutFrom kept (kept ++ after) := by
  refine ⟨⟨after, rfl⟩, ?_⟩
  rintro rfl
  cases spanned : startsWithSpan (['.'] ++ after) with
  | false => rfl
  | true =>
    obtain ⟨rest, same⟩ := startsWithSpan_iff.1 spanned
    have visible : isBlank '.' = false := by decide
    rw [same, tokens_cons visible, Lexeme.first_span] at whole
    rw [tokens_cons visible] at alone
    have two : token.text = ".." := by rw [← (List.cons.inj whole).1]
    have one : token.text = "." := by rw [← (List.cons.inj alone).1]; rfl
    rw [one] at two
    exact absurd two (by decide)

/-- A row of tokens at the front of a text is what a beginning of the text is cut into, unless the last
of them gets its kind from what stands behind it. -/
theorem tokens_cut {part later : List Token} (nonempty : part ≠ [])
    (running : ∀ token ∈ part, token.kind ≠ .endOfInput)
    (free : ∀ token ∈ part.getLast?, token.kind ≠ .fieldName ∧ token.kind ≠ .keyword .isIn)
    (read : tokens ⟨text, position, context, false⟩ = part ++ later) :
    ∃ kept after, text = kept ++ after ∧
      tokens ⟨kept, position, context, false⟩ =
        part ++ [Token.atEnd (position + byteWidth kept)] ∧
      ∃ last, part.getLast? = some last ∧ last.span.stop = position + byteWidth kept := by
  induction part generalizing text position context with
  | nil => exact (nonempty rfl).elim
  | cons token part ih =>
    have runs := running token (by simp)
    obtain ⟨gap, c, rest, rfl, blank, visible, made, behind⟩ := lexeme_of_tokens runs read
    have whole := Lexeme.first_append c rest
    have stop : token.span.stop =
        position + byteWidth (gap ++ (Lexeme.first c rest).text) := by
      rw [made]
      simp [Span.stop, Nat.add_assoc]
    cases part with
    | nil =>
      obtain ⟨noField, noList⟩ := free token (by simp)
      rw [made] at noField noList
      have alone := tokens_cons_cut blank visible (CutFrom.nil _)
        (LexicalContext.kindOf_nil noField noList) position
      refine ⟨gap ++ (Lexeme.first c rest).text, (Lexeme.first c rest).rest, ?_, ?_, token, rfl, stop⟩
      · rw [List.append_assoc, whole]
      · rw [List.append_nil, tokens_nil] at alone
        rw [alone, made, byteWidth_append, Nat.add_assoc]
        rfl
    | cons next part =>
      obtain ⟨kept, after, same, read', last, isLast, ends⟩ := ih (by simp)
        (fun other member => running other (by simp [member]))
        (fun other member => free other (by simpa using member)) behind.symm
      have cut : CutFrom kept (Lexeme.first c rest).rest := by
        rw [same] at behind ⊢
        exact cutFrom_of_tokens behind.symm read'
      have kind : context.kindOf ⟨(Lexeme.first c rest).shape, (Lexeme.first c rest).text, kept⟩ =
          context.kindOf (Lexeme.first c rest) := by
        obtain ⟨gap', c', rest', rfl, blank', visible', _⟩ :=
          lexeme_of_tokens (running next (by simp)) read'
        exact LexicalContext.kindOf_cut blank' visible' cut
      have alone := tokens_cons_cut blank visible cut kind position
      refine ⟨gap ++ ((Lexeme.first c rest).text ++ kept), after, ?_, ?_, last, ?_, ?_⟩
      · rw [List.append_assoc, List.append_assoc, ← same, whole]
      · subst made
        have width : position + byteWidth gap + byteWidth (Lexeme.first c rest).text + byteWidth kept =
            position + byteWidth (gap ++ ((Lexeme.first c rest).text ++ kept)) := by
          simp [Nat.add_assoc]
        rw [alone, List.cons_append, ← width]
        exact congrArg (_ :: ·) read'
      · simpa using isLast
      · rw [ends, stop]
        simp [Nat.add_assoc]

/-- Behind a row of tokens at the front of a text the reader goes on with what is left of it. -/
theorem tokens_skip {before later : List Token}
    (running : ∀ token ∈ before, token.kind ≠ .endOfInput)
    (read : tokens ⟨text, position, context, false⟩ = before ++ later) :
    ∃ passed rest, text = passed ++ rest ∧
      tokens ⟨rest, position + byteWidth passed, context.through before, false⟩ = later := by
  induction before generalizing text position context with
  | nil => exact ⟨[], text, rfl, read⟩
  | cons token before ih =>
    obtain ⟨gap, c, rest, rfl, _, _, made, behind⟩ := lexeme_of_tokens (running token (by simp)) read
    obtain ⟨passed, left, same, read'⟩ := ih (fun other member => running other (by simp [member]))
      behind.symm
    refine ⟨gap ++ ((Lexeme.first c rest).text ++ passed), left, ?_, ?_⟩
    · rw [List.append_assoc, List.append_assoc, ← same, Lexeme.first_append]
    · rw [← read', made]
      simp [Span.stop, Nat.add_assoc]

/-- What stands where an operand begins is read as it is at the front of a query. -/
theorem tokens_of_atOperand {c : Char} (visible : isBlank c = false) (place : context.AtOperand) :
    tokens ⟨c :: text, position, context, false⟩ = tokens ⟨c :: text, position, .start, false⟩ := by
  rw [tokens_cons visible, tokens_cons visible, place.kindOf_eq, place.after_eq]

/-- A row of tokens of a text that begins where an operand does, read alone. The part of the text
that its span covers is cut into the same tokens, only that they stand at the front. -/
theorem tokenize_slice {input : String} {before part later : List Token} {span : Span}
    (read : tokenize input = before ++ (part ++ later))
    (running : ∀ token ∈ before ++ part, token.kind ≠ .endOfInput)
    (place : (LexicalContext.start.through before).AtOperand) (encloses : span.Encloses part)
    (free : ∀ token ∈ part.getLast?, token.kind ≠ .fieldName ∧ token.kind ≠ .keyword .isIn) :
    ∃ slice : String, span.Covers slice.toList input.toList ∧
      (tokenize slice).map (Token.moved span.position) = part ++ [Token.atEnd span.stop] := by
  obtain ⟨⟨first, head, starts⟩, last, tail, ends⟩ := encloses
  obtain ⟨others, rfl⟩ := List.head?_eq_some_iff.1 head
  obtain ⟨passed, rest, whole, ahead⟩ :=
    tokens_skip (fun token member => running token (by simp [member])) read
  rw [Nat.zero_add] at ahead
  obtain ⟨gap, c, text, rfl, blank, visible, made, _⟩ :=
    lexeme_of_tokens (running first (by simp)) ahead
  rw [tokens_gap blank] at ahead
  have front : byteWidth passed + byteWidth gap = span.position := by rw [← starts, made]
  rw [front] at ahead
  obtain ⟨kept, after, same, alone, last', isLast, stop⟩ := tokens_cut (by simp)
    (fun token member => running token (List.mem_append_right _ member)) free ahead
  obtain rfl : last' = last := by rw [isLast] at tail; exact Option.some.inj tail
  rw [ends] at stop
  have width : byteWidth kept = span.length := Nat.add_left_cancel stop.symm
  refine ⟨String.ofList kept, ⟨passed ++ gap, after, ?_, ?_, ?_⟩, ?_⟩
  · rw [String.toList_ofList, whole, same, List.append_assoc]
  · rw [byteWidth_append, front]
  · rw [String.toList_ofList, width]
  · have visibly : ∃ text', kept = c :: text' := by
      cases kept with
      | nil => simp [tokens_nil, Token.atEnd] at alone
      | cons d text' => exact ⟨text', by rw [(List.cons.inj same).1]⟩
    obtain ⟨text', rfl⟩ := visibly
    have shifted := tokens_moved (c :: text') 0 span.position .start
    rw [Nat.zero_add] at shifted
    rw [tokens_of_atOperand visible place, shifted, ← stop] at alone
    rw [tokenize, ofText, String.toList_ofList, alone]

end Lexer

end SearchBox
