import Mathlib
import SearchBox.Proofs.Lexing.Slices

/-! A text laid out anew: other blanks where there are blanks, reserved words in another letter case. It
is cut into tokens of the same kinds and texts, and the places where they begin and end, though they
move, keep their order. -/

namespace SearchBox

/-! Letter case plays no part in where a lexeme ends. -/

theorem toLower_cases (c : Char) :
    c.toLower = c ∨ c.isAlphanum = true ∧ c.toLower.isAlphanum = true := by
  by_cases upper : c.isUpper = true
  · right
    refine ⟨by simp [Char.isAlphanum, Char.isAlpha, upper], ?_⟩
    have bounds : c.val ≥ 'A'.val ∧ c.val ≤ 'Z'.val := by simpa [Char.isUpper] using upper
    obtain ⟨low, high⟩ := bounds
    have lower : c.toLower.isLower = true := by
      rw [Char.toLower, dif_pos ⟨low, high⟩]
      simp only [Char.isLower, UInt32.le_iff_toNat_le, ge_iff_le] at low high ⊢
      simp at low high ⊢
      omega
    simp [Char.isAlphanum, Char.isAlpha, lower]
  · left
    rw [Char.toLower, dif_neg (by simpa [Char.isUpper] using upper)]

/-- What the reader sees of a character: letter case aside, and all blanks as one. -/
def outline (c : Char) : Char :=
  if isBlank c then ' ' else c.toLower

theorem isWordChar_of_isAlphanum {c : Char} (letter : c.isAlphanum = true) :
    isWordChar c = true ∧ c ≠ '.' :=
  isWordChar_of_nameChar (by rw [letter]; rfl)

theorem isWordChar_toLower (c : Char) : isWordChar c.toLower = isWordChar c := by
  rcases toLower_cases c with same | ⟨letter, letter'⟩
  · rw [same]
  · rw [(isWordChar_of_isAlphanum letter).1, (isWordChar_of_isAlphanum letter').1]

theorem isWordChar_outline (c : Char) : isWordChar (outline c) = isWordChar c := by
  unfold outline
  split
  · next blank => rw [isWordChar, isWordChar, blank]; rfl
  · exact isWordChar_toLower c

/-- The characters that mark something for the reader are seen as they are. -/
theorem outline_eq_iff {c mark : Char} (isMark : mark ∈ [':', '*', '=', '.', '(']) :
    outline c = mark ↔ c = mark := by
  have noLetter : mark.isAlphanum = false ∧ isBlank mark = false ∧ mark ≠ ' ' := by
    simp only [List.mem_cons, List.not_mem_nil, or_false] at isMark
    rcases isMark with rfl | rfl | rfl | rfl | rfl <;> decide
  obtain ⟨noLetter, visible, noSpace⟩ := noLetter
  unfold outline
  split
  · next blank =>
    refine iff_of_false noSpace.symm ?_
    rintro rfl
    rw [visible] at blank
    cases blank
  · rcases toLower_cases c with same | ⟨letter, letter'⟩
    · rw [same]
    · refine iff_of_false ?_ ?_
      · intro same
        rw [same, noLetter] at letter'
        cases letter'
      · rintro rfl
        rw [noLetter] at letter
        cases letter

/-- Both texts look alike to a lexeme in front of them, and to a word that could open a list there. -/
structure SameFront (text text' : List Char) : Prop where
  head : text.head?.map outline = text'.head?.map outline
  dots : startsWithSpan text = startsWithSpan text'
  visible : (text.dropWhile isBlank).head?.map outline = (text'.dropWhile isBlank).head?.map outline

theorem head?_eq_some_iff_of_outline {text text' : List Char} {mark : Char}
    (same : text.head?.map outline = text'.head?.map outline)
    (isMark : mark ∈ [':', '*', '=', '.', '(']) :
    text'.head? = some mark ↔ text.head? = some mark := by
  have seen (text : List Char) : text.head? = some mark ↔ text.head?.map outline = some mark := by
    cases text with
    | nil => exact Iff.rfl
    | cons c text =>
      rw [List.head?_cons, Option.map_some, Option.some.injEq, Option.some.injEq, outline_eq_iff isMark]
  rw [seen text, seen text', same]

namespace SameFront

variable {text text' : List Char}

theorem replaces (front : SameFront text text') : Replaces text' text := by
  constructor
  · rintro rfl
    exact List.head?_eq_none_iff.1 (Option.map_eq_none_iff.1 front.head.symm)
  · intro stops
    cases text' with
    | nil => rfl
    | cons c' text' =>
      cases text with
      | nil => cases front.head
      | cons c text =>
        have same : outline c = outline c' := Option.some.inj front.head
        have char : isWordChar c' = isWordChar c := by
          rw [← isWordChar_outline c', ← same, isWordChar_outline]
        rw [splitWord_cons_iff] at stops ⊢
        rwa [char, ← front.dots]
  · intro c isMark absent present
    have isMark' : c ∈ [':', '*', '=', '.', '('] := by
      revert isMark
      simp only [List.mem_cons, List.not_mem_nil, or_false]
      tauto
    exact absent ((head?_eq_some_iff_of_outline front.head isMark').1 present)

theorem kindOf_eq (front : SameFront text text') (context : LexicalContext) (shape : Shape)
    (word : List Char) :
    context.kindOf ⟨shape, word, text'⟩ = context.kindOf ⟨shape, word, text⟩ :=
  LexicalContext.kindOf_congr (head?_eq_some_iff_of_outline front.head (by simp))
    (head?_eq_some_iff_of_outline front.visible (by simp))

end SameFront

/-! Reserved words. -/

/-- Reserved words are made of letters, in whatever case they are written. -/
theorem chars_of_spells {word : List Char} {keyword : Keyword}
    (spells : sameIgnoringAsciiCase word keyword.text.toList = true) :
    word ≠ [] ∧ ∀ c ∈ word, isWordChar c = true ∧ c ≠ '.' := by
  have lowered : word.map Char.toLower = keyword.text.toList.map Char.toLower := by
    simpa [sameIgnoringAsciiCase] using spells
  have letters : keyword.text.toList.map Char.toLower ≠ [] ∧
      (keyword.text.toList.map Char.toLower).all
        (fun c => isWordChar c && c.toLower != '.') = true := by
    cases keyword <;> decide
  rw [← lowered] at letters
  refine ⟨by simpa using letters.1, ?_⟩
  intro c member
  have both := List.all_eq_true.1 letters.2 _ (List.mem_map_of_mem member)
  obtain ⟨char, noDot⟩ : isWordChar c.toLower = true ∧ c.toLower.toLower ≠ '.' := by
    simpa using both
  refine ⟨by rwa [isWordChar_toLower] at char, ?_⟩
  rintro rfl
  exact noDot (by decide)

namespace LexicalContext

variable {context : LexicalContext}

theorem spells_of_ofWord? {word : List Char} {keyword : Keyword}
    (found : Keyword.ofWord? word = some keyword) :
    sameIgnoringAsciiCase word keyword.text.toList = true := by
  have here := List.find?_some found
  exact here

/-- A word that is reserved where it stands is so in every letter case. -/
theorem kindOf_of_keyword {word word' rest : List Char} {keyword : Keyword}
    (reserved : context.kindOf ⟨.plainWord, word, rest⟩ = .keyword keyword)
    (same : sameIgnoringAsciiCase word' word = true) :
    sameIgnoringAsciiCase word' keyword.text.toList = true ∧
      sameIgnoringAsciiCase word keyword.text.toList = true ∧
      context.kindOf ⟨.plainWord, word', rest⟩ = .keyword keyword := by
  have lowered : word'.map Char.toLower = word.map Char.toLower := by
    simpa [sameIgnoringAsciiCase] using same
  have alike (other : List Char) :
      sameIgnoringAsciiCase word' other = sameIgnoringAsciiCase word other := by
    rw [sameIgnoringAsciiCase, lowered, sameIgnoringAsciiCase]
  have lookup : Keyword.ofWord? word' = Keyword.ofWord? word := by
    simp only [Keyword.ofWord?, alike]
  have opens : context.opensList word' rest = context.opensList word rest := by
    rw [opensList, alike, opensList]
  simp only [kindOf, wordKind, lookup, opens] at reserved ⊢
  split at reserved
  · cases reserved
  · next noColon =>
    rw [if_neg noColon]
    split at reserved
    · next expects =>
      rw [if_pos expects]
      split at reserved
      · next opening =>
        cases reserved
        have spells : sameIgnoringAsciiCase word "IN".toList = true := by
          simp only [opensList, Bool.and_eq_true] at opening
          exact opening.1.2
        exact ⟨(alike _).trans spells, spells, if_pos opening⟩
      · exact absurd reserved (literalKind_ne_keyword word keyword)
    · next unexpected =>
      rw [if_neg unexpected]
      cases found : Keyword.ofWord? word with
      | none => simp [found] at reserved
      | some other =>
        obtain rfl : other = keyword := by simpa [found] using reserved
        exact ⟨(alike _).trans (spells_of_ofWord? found), spells_of_ofWord? found, rfl⟩

end LexicalContext

namespace Lexeme

/-- A plain word ends where a word does, without a star. -/
theorem first_plainWord {c : Char} {text : List Char} (plain : (first c text).shape = .plainWord) :
    splitWord (first c text).rest = ([], (first c text).rest) ∧
      (first c text).rest.head? ≠ some '*' := by
  unfold first at plain ⊢
  split at plain
  case h_5 =>
    unfold ofQuote withStar at plain
    split at plain
    · split at plain <;> cases plain
    · cases plain
  case h_11 =>
    have ends := splitWord_endsWord (c :: text)
    unfold ofWord withStar at plain ⊢
    split at plain
    · cases plain
    · next word rest _ split =>
      rw [split] at ends
      split at plain
      · cases plain
      · next noStar =>
        refine ⟨ends.1, ?_⟩
        intro star
        obtain ⟨after, same⟩ := List.head?_eq_some_iff.1 star
        exact noStar after same
  all_goals cases plain

end Lexeme

/-! The same tokens laid out in two ways. -/

namespace Token

/-- How the characters of the token may be written elsewhere: a reserved word in any letter case. -/
def Respelled (token : Token) (written : List Char) : Prop :=
  written = token.text.toList ∨
    ∃ keyword, token.kind = .keyword keyword ∧
      sameIgnoringAsciiCase written token.text.toList = true

/-- The tokens are of one kind and, unless they are a reserved word, have the same text. -/
structure Alike (token token' : Token) : Prop where
  kind_eq : token'.kind = token.kind
  text_eq : (∀ keyword, token.kind ≠ .keyword keyword) → token'.text = token.text

end Token

/-- Gaps that mean the same: some blanks in both, or in both none. -/
structure SameGap (gap gap' : List Char) : Prop where
  blank : ∀ c ∈ gap, isBlank c = true
  blank' : ∀ c ∈ gap', isBlank c = true
  nil_iff : gap = [] ↔ gap' = []

instance (token : Token) (written : List Char) : Decidable (token.Respelled written) :=
  decidable_of_iff
    (written = token.text.toList ∨ ∃ keyword ∈ Keyword.all, token.kind = .keyword keyword ∧
      sameIgnoringAsciiCase written token.text.toList = true)
    (or_congr Iff.rfl (exists_congr fun keyword =>
      ⟨fun found => found.2, fun found => ⟨by cases keyword <;> decide, found⟩⟩))

instance (gap gap' : List Char) : Decidable (SameGap gap gap') :=
  decidable_of_iff
    (gap.all isBlank = true ∧ gap'.all isBlank = true ∧ (gap = [] ↔ gap' = []))
    ⟨fun ⟨blank, blank', empty⟩ => ⟨List.all_eq_true.1 blank, List.all_eq_true.1 blank', empty⟩,
      fun ⟨blank, blank', empty⟩ => ⟨List.all_eq_true.2 blank, List.all_eq_true.2 blank', empty⟩⟩

/-- The second text is the first one, which consists of the tokens and blanks, laid out anew. -/
inductive Relaid : List Token → List Char → List Char → Prop where
  | ending {length : Nat} {gap gap' : List Char} (gaps : SameGap gap gap') :
      Relaid [Token.atEnd length] gap gap'
  | token {token : Token} {later : List Token} {gap gap' written rest rest' : List Char}
      (gaps : SameGap gap gap') (spelled : token.Respelled written)
      (behind : Relaid later rest rest') :
      Relaid (token :: later) (gap ++ (token.text.toList ++ rest)) (gap' ++ (written ++ rest'))

/-- Every text is laid out as it is itself. -/
theorem Tiles.relaid {position : Nat} {text : List Char} {row : List Token}
    (tiles : Tiles position text row) : Relaid row text text := by
  induction tiles with
  | ending blank => exact .ending ⟨blank, blank, Iff.rfl⟩
  | token blank _ _ _ _ ih => exact .token ⟨blank, blank, Iff.rfl⟩ (.inl rfl) ih

/-- The next two marks stand where the last two stand, or both further back. -/
def Follows (last next : Nat × Nat) : Prop :=
  last = next ∨ last.1 < next.1 ∧ last.2 < next.2

/-- Where the tokens of both rows begin and end. -/
def Token.marks (row row' : List Token) : List (Nat × Nat) :=
  (row.zip row').flatMap fun pair =>
    [(pair.1.span.position, pair.2.span.position), (pair.1.span.stop, pair.2.span.stop)]

namespace SameGap

variable {gap gap' : List Char}

theorem follows (gaps : SameGap gap gap') (position position' : Nat) :
    Follows (position, position') (position + byteWidth gap, position' + byteWidth gap') := by
  by_cases empty : gap = []
  · obtain rfl := gaps.nil_iff.1 empty
    subst empty
    exact .inl rfl
  · have wide := byteWidth_pos empty
    have wide' := byteWidth_pos (mt gaps.nil_iff.2 empty)
    exact .inr ⟨by dsimp only; omega, by dsimp only; omega⟩

end SameGap

/-- What stands in front of the first visible character of a text is found in one way only. -/
theorem append_cons_inj_of_blank {gap gap' text text' : List Char} {c c' : Char}
    (blank : ∀ d ∈ gap, isBlank d = true) (blank' : ∀ d ∈ gap', isBlank d = true)
    (visible : isBlank c = false) (visible' : isBlank c' = false)
    (same : gap ++ c :: text = gap' ++ c' :: text') : gap = gap' ∧ c :: text = c' :: text' := by
  have front {gap text : List Char} {c : Char} (blank : ∀ d ∈ gap, isBlank d = true)
      (visible : isBlank c = false) : (gap ++ c :: text).takeWhile isBlank = gap := by
    rw [List.takeWhile_append_of_pos blank, List.takeWhile_cons_of_neg (by simp [visible]),
      List.append_nil]
  obtain rfl : gap = gap' := by rw [← front blank visible, same, front blank' visible']
  exact ⟨rfl, List.append_cancel_left same⟩

/-- How the token is made from the lexeme `c :: word` in front of `rest`. -/
structure Token.ReadFrom (token : Token) (context : LexicalContext) (c : Char)
    (word rest : List Char) (shape : Shape) : Prop where
  text_eq : token.text.toList = c :: word
  visible : isBlank c = false
  first_eq : Lexeme.first c (word ++ rest) = ⟨shape, c :: word, rest⟩
  kind_eq : token.kind = context.kindOf ⟨shape, c :: word, rest⟩

theorem Lexer.readFrom_of_tokens {context : LexicalContext} {token : Token} {later : List Token}
    {gap rest : List Char} {position : Nat} (blank : ∀ c ∈ gap, isBlank c = true)
    (running : token.kind ≠ .endOfInput)
    (read : tokens ⟨gap ++ (token.text.toList ++ rest), position, context, false⟩ = token :: later) :
    (∃ c word shape, token.ReadFrom context c word rest shape) ∧
      token.span = ⟨position + byteWidth gap, byteWidth token.text.toList⟩ ∧
      tokens ⟨rest, token.span.stop, context.after token.kind, false⟩ = later := by
  obtain ⟨gap', c, rest', split, blank', visible, made, behind⟩ := lexeme_of_tokens running read
  have text : token.text.toList = (Lexeme.first c rest').text := by
    rw [made]
    exact String.toList_ofList
  have whole := Lexeme.first_append c rest'
  obtain ⟨d, word, cut⟩ := List.exists_cons_of_ne_nil (Lexeme.first_text_ne_nil c rest')
  rw [cut, List.cons_append] at whole
  obtain ⟨rfl, _⟩ := List.cons.inj whole
  rw [text, cut, List.cons_append] at split
  obtain ⟨rfl, same⟩ := append_cons_inj_of_blank blank blank' visible visible split
  obtain rfl : word ++ rest = rest' := (List.cons.inj same).2
  have left : (Lexeme.first d (word ++ rest)).rest = rest :=
    List.append_cancel_left (List.cons.inj whole).2
  have lexeme : Lexeme.first d (word ++ rest) =
      ⟨(Lexeme.first d (word ++ rest)).shape, d :: word, rest⟩ := by
    calc Lexeme.first d (word ++ rest)
        = ⟨(Lexeme.first d (word ++ rest)).shape, (Lexeme.first d (word ++ rest)).text,
            (Lexeme.first d (word ++ rest)).rest⟩ := rfl
      _ = ⟨(Lexeme.first d (word ++ rest)).shape, d :: word, rest⟩ := by rw [cut, left]
  refine ⟨⟨d, word, _, text.trans cut, visible, lexeme, ?_⟩, ?_, ?_⟩
  · rw [made, ← lexeme]
  · rw [text, made]
  · rw [behind, left]

theorem startsWithSpan_cons_iff {c : Char} {text : List Char} :
    startsWithSpan (c :: text) = true ↔ c = '.' ∧ text.head? = some '.' := by
  simp [startsWithSpan_iff, List.head?_eq_some_iff]

namespace Token.ReadFrom

variable {token : Token} {context : LexicalContext} {c : Char} {word rest rest' : List Char}
  {shape : Shape}

/-- A reserved word is made of letters and ends where a word does. -/
theorem of_keyword (read : token.ReadFrom context c word rest shape) {keyword : Keyword}
    (reserved : token.kind = .keyword keyword) :
    shape = .plainWord ∧ splitWord rest = ([], rest) ∧ rest.head? ≠ some '*' := by
  obtain ⟨_, _, first, kind⟩ := read
  have plain : shape = .plainWord := by
    cases shape with
    | plainWord => rfl
    | fixed fixed =>
      obtain rfl : .keyword keyword = fixed := reserved.symm.trans kind
      exact absurd (congrArg Lexeme.shape first) (Lexeme.first_shape_ne (.inl rfl) c (word ++ rest))
  subst plain
  have ends := Lexeme.first_plainWord (congrArg Lexeme.shape first)
  rw [first] at ends
  exact ⟨rfl, ends⟩

/-- In front of texts that look alike a token is read in the same way, also when it is a reserved word
in another letter case. -/
theorem respelled {written : List Char} (read : token.ReadFrom context c word rest shape)
    (spelled : token.Respelled written) (front : SameFront rest rest') :
    ∃ c' word', written = c' :: word' ∧ isBlank c' = false ∧ outline c' = outline c ∧
      startsWithSpan (c' :: (word' ++ rest')) = startsWithSpan (c :: (word ++ rest)) ∧
      Lexeme.first c' (word' ++ rest') = ⟨shape, c' :: word', rest'⟩ ∧
      context.kindOf ⟨shape, c' :: word', rest'⟩ = token.kind := by
  rcases spelled with rfl | ⟨keyword, reserved, same⟩
  · obtain ⟨text, visible, first, kind⟩ := read
    have replaces : Replaces rest' (Lexeme.first c (word ++ rest)).rest := by
      rw [first]
      exact front.replaces
    obtain ⟨word', cut, again⟩ := Lexeme.first_replaced c (word ++ rest) replaces
    rw [first] at cut again
    obtain rfl : word = word' := (List.cons.inj cut).2
    have dot : (word ++ rest').head? = some '.' ↔ (word ++ rest).head? = some '.' := by
      cases word with
      | nil => exact head?_eq_some_iff_of_outline front.head (by simp)
      | cons d word => exact Iff.rfl
    refine ⟨c, word, text, visible, rfl, ?_, again, by rw [front.kindOf_eq, kind]⟩
    rw [Bool.eq_iff_iff, startsWithSpan_cons_iff, startsWithSpan_cons_iff, dot]
  · obtain ⟨rfl, stops, noStar⟩ := read.of_keyword reserved
    obtain ⟨text, visible, first, kind⟩ := read
    rw [text] at same
    obtain ⟨spells', spells, kind'⟩ :=
      LexicalContext.kindOf_of_keyword (kind.symm.trans reserved) same
    obtain ⟨nonempty, chars'⟩ := chars_of_spells spells'
    obtain ⟨c', word', rfl⟩ := List.exists_cons_of_ne_nil nonempty
    obtain ⟨char', noDot'⟩ := chars' c' List.mem_cons_self
    obtain ⟨_, noDot⟩ := (chars_of_spells spells).2 c List.mem_cons_self
    have visible' : isBlank c' = false := isBlank_of_isWordChar char'
    have lowered : c'.toLower = c.toLower := by
      have same : (c' :: word').map Char.toLower = (c :: word).map Char.toLower := by
        simpa [sameIgnoringAsciiCase] using same
      exact (List.cons.inj same).1
    have dotless : '.' ∉ c' :: word' := fun member => (chars' _ member).2 rfl
    have ends : EndsWord (c' :: word') rest' := by
      refine ⟨front.replaces.splitWord_eq stops, ?_⟩
      intro last
      exact absurd (List.mem_of_getLast? last) dotless
    refine ⟨c', word', rfl, visible', ?_, ?_, ?_, ?_⟩
    · rw [outline, outline, if_neg (by simp [visible']), if_neg (by simp [visible]), lowered]
    · rw [Bool.eq_iff_iff, startsWithSpan_cons_iff, startsWithSpan_cons_iff]
      exact iff_of_false (fun dots => noDot' dots.1) fun dots => noDot dots.1
    · rw [Lexeme.first_word (fun d member => (chars' d member).1) (containsSpan_of_noDot dotless) ends]
      exact Lexeme.withStar_of_ne (front.replaces.head?_ne '*' (by simp) noStar) _ _
    · rw [front.kindOf_eq, kind', reserved]

end Token.ReadFrom

namespace SameFront

variable {text text' : List Char}

theorem of_visible {c c' : Char} (visible : isBlank c = false) (visible' : isBlank c' = false)
    (same : outline c' = outline c)
    (dots : startsWithSpan (c' :: text') = startsWithSpan (c :: text)) :
    SameFront (c :: text) (c' :: text') := by
  have head : (c :: text).head?.map outline = (c' :: text').head?.map outline :=
    congrArg some same.symm
  refine ⟨head, dots.symm, ?_⟩
  rwa [List.dropWhile_cons_of_neg (by simp [visible]), List.dropWhile_cons_of_neg (by simp [visible'])]

theorem of_gap {gap gap' : List Char} (gaps : SameGap gap gap') (front : SameFront text text') :
    SameFront (gap ++ text) (gap' ++ text') := by
  obtain ⟨blank, blank', empty⟩ := gaps
  have visible : ((gap ++ text).dropWhile isBlank).head?.map outline =
      ((gap' ++ text').dropWhile isBlank).head?.map outline := by
    rw [List.dropWhile_append_of_pos blank, List.dropWhile_append_of_pos blank', front.visible]
  match gap, gap' with
  | [], [] => exact front
  | [], _ :: _ => cases empty.1 rfl
  | _ :: _, [] => cases empty.2 rfl
  | b :: gap, b' :: gap' =>
    have seen {b : Char} {gap text : List Char} (blank : isBlank b = true) :
        (b :: gap ++ text).head?.map outline = some ' ' ∧ startsWithSpan (b :: gap ++ text) = false := by
      refine ⟨congrArg some (if_pos blank), ?_⟩
      rw [← Bool.not_eq_true, List.cons_append, startsWithSpan_cons_iff]
      rintro ⟨rfl, _⟩
      exact absurd blank (by decide)
    obtain ⟨head, dots⟩ := seen (blank b List.mem_cons_self)
    obtain ⟨head', dots'⟩ := seen (blank' b' List.mem_cons_self)
    exact ⟨head.trans head'.symm, dots.trans dots'.symm, visible⟩

end SameFront

namespace Relaid

variable {row : List Token} {text text' : List Char} {position position' : Nat}
  {context : LexicalContext}

theorem running {token : Token} {later : List Token} {rest rest' : List Char}
    (behind : Relaid later rest rest')
    (read : Lexer.tokens ⟨text, position, context, false⟩ = token :: later) :
    token.kind ≠ .endOfInput := by
  obtain ⟨next, later, rfl⟩ : ∃ next later', later = next :: later' := by
    cases behind <;> exact ⟨_, _, rfl⟩
  rw [← List.singleton_append] at read
  exact Lexer.running_of_before rfl read token List.mem_cons_self

theorem sameFront (relaid : Relaid row text text')
    (read : Lexer.tokens ⟨text, position, context, false⟩ = row) : SameFront text text' := by
  -- from the end of the text on, as how a reserved word is read depends on what stands behind it
  induction relaid generalizing position context with
  | @ending _ gap gap' gaps =>
    have front : SameFront (gap ++ []) (gap' ++ []) := .of_gap gaps ⟨rfl, rfl, rfl⟩
    rwa [List.append_nil, List.append_nil] at front
  | token gaps spelled behind ih =>
    obtain ⟨⟨c, word, shape, reads⟩, _, later⟩ :=
      Lexer.readFrom_of_tokens gaps.blank (behind.running read) read
    obtain ⟨c', word', rfl, visible', same, dots, _⟩ := reads.respelled spelled (ih later)
    rw [reads.text_eq]
    exact .of_gap gaps (.of_visible reads.visible visible' same dots)

/-- The text laid out anew has tokens like those of the first one, whose ends are in the same order. -/
theorem tokens_eq (relaid : Relaid row text text')
    (read : Lexer.tokens ⟨text, position, context, false⟩ = row) (position' : Nat) :
    List.Forall₂ Token.Alike row (Lexer.tokens ⟨text', position', context, false⟩) ∧
      ((position, position') ::
        Token.marks row (Lexer.tokens ⟨text', position', context, false⟩)).IsChain Follows := by
  induction relaid generalizing position position' context with
  | @ending length gap gap' gaps =>
    have ends (position : Nat) {gap : List Char} (blank : ∀ c ∈ gap, isBlank c = true) :
        Lexer.tokens ⟨gap, position, context, false⟩ = [Token.atEnd (position + byteWidth gap)] := by
      have read := Lexer.tokens_gap blank [] position context
      rwa [List.append_nil, Lexer.tokens_nil] at read
    rw [ends position gaps.blank] at read
    rw [ends position' gaps.blank']
    obtain rfl : position + byteWidth gap = length := by
      simpa [Token.atEnd] using read
    refine ⟨.cons ⟨rfl, fun _ => rfl⟩ .nil, ?_⟩
    exact .cons_cons (gaps.follows position position') (.cons_cons (.inl rfl) (.singleton _))
  | @token token later gap gap' written rest rest' gaps spelled behind ih =>
    have running := behind.running read
    obtain ⟨⟨c, word, shape, reads⟩, place, ahead⟩ := Lexer.readFrom_of_tokens gaps.blank running read
    obtain ⟨c', word', rfl, visible', _, _, lexeme, kind⟩ :=
      reads.respelled spelled (behind.sameFront ahead)
    rw [Lexer.tokens_gap gaps.blank', List.cons_append, Lexer.tokens_cons visible', lexeme, kind]
    obtain ⟨alike, chain⟩ :=
      ih ahead (position' + byteWidth gap' + byteWidth (c' :: word'))
    refine ⟨.cons ⟨rfl, ?_⟩ alike, ?_⟩
    · intro unreserved
      rcases spelled with same | ⟨keyword, reserved, _⟩
      · dsimp only
        rw [same, String.ofList_toList]
      · exact absurd reserved (unreserved keyword)
    · have wide : 0 < byteWidth (c' :: word') := byteWidth_pos (List.cons_ne_nil c' word')
      have wide' : 0 < byteWidth token.text.toList := by
        rw [reads.text_eq]
        exact byteWidth_pos (List.cons_ne_nil c word)
      refine .cons_cons ?_ (.cons_cons (.inr ?_) chain)
      · rw [place]
        exact gaps.follows position position'
      · rw [place, Span.stop]
        dsimp only [Span.stop]
        omega

end Relaid

end SearchBox
