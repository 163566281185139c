import SearchBox.Proofs.Lexing.Steps

/-! Cutting a text into tokens loses nothing. The tokens stand in the text where their spans say, one
after another, and what is left of the text between them is blank. -/

namespace SearchBox

@[simp] theorem byteWidth_append (first second : List Char) :
    byteWidth (first ++ second) = byteWidth first + byteWidth second := by
  induction first with
  | nil => simp [byteWidth]
  | cons c first ih => simp [byteWidth, ih, Nat.add_assoc]

theorem byteWidth_pos {text : List Char} (visible : text ≠ []) : 0 < byteWidth text := by
  obtain ⟨c, text, rfl⟩ := List.exists_cons_of_ne_nil visible
  exact Nat.add_pos_left c.utf8Size_pos _

/-- The span runs over exactly the part, from one character boundary of the text to another. -/
def Span.Covers (span : Span) (part text : List Char) : Prop :=
  ∃ before after, text = before ++ (part ++ after) ∧ byteWidth before = span.position ∧
    byteWidth part = span.length

/-- A text from `position` on, laid out as the tokens with blank gaps before, between and behind
them. The last token is the end of the input and no other is. -/
inductive Tiles : (position : Nat) → List Char → List Token → Prop where
  | ending {position : Nat} {gap : List Char} (blank : ∀ c ∈ gap, isBlank c = true) :
      Tiles position gap [Token.atEnd (position + byteWidth gap)]
  | token {position : Nat} {gap rest : List Char} {token : Token} {later : List Token}
      (blank : ∀ c ∈ gap, isBlank c = true) (running : token.kind ≠ .endOfInput)
      (visible : token.text.toList ≠ [])
      (placed : token.span = ⟨position + byteWidth gap, byteWidth token.text.toList⟩)
      (behind : Tiles token.span.stop rest later) :
      Tiles position (gap ++ (token.text.toList ++ rest)) (token :: later)

namespace Tiles

variable {position : Nat} {text : List Char} {tokens : List Token}

/-- One more blank in front makes the first gap longer. -/
theorem blank {c : Char} (isBlank : isBlank c = true)
    (tiles : Tiles (position + c.utf8Size) text tokens) : Tiles position (c :: text) tokens := by
  cases tiles with
  | @ending _ gap blank =>
    have longer : Tiles position (c :: text) [Token.atEnd (position + byteWidth (c :: text))] :=
      .ending (by simpa [isBlank] using blank)
    rwa [byteWidth, ← Nat.add_assoc] at longer
  | @token _ gap rest token later blank running visible placed behind =>
    have longer : ∀ d ∈ c :: gap, SearchBox.isBlank d = true := by simpa [isBlank] using blank
    exact .token longer running visible (by rw [placed, byteWidth, Nat.add_assoc]) behind

/-- A lexeme at the front of the text becomes the first token. -/
theorem lexeme {kind : Token.Kind} {chars rest : List Char} {later : List Token}
    (running : kind ≠ .endOfInput) (visible : chars ≠ [])
    (behind : Tiles (position + byteWidth chars) rest later) :
    Tiles position (chars ++ rest)
      (⟨kind, String.ofList chars, ⟨position, byteWidth chars⟩⟩ :: later) := by
  have written : (String.ofList chars).toList = chars := String.toList_ofList
  have tile := @Tiles.token position [] rest
    ⟨kind, String.ofList chars, ⟨position, byteWidth chars⟩⟩ later (by simp) running
    (by rwa [written]) (by rw [written]; rfl) behind
  rwa [written] at tile

/-- The end of the input comes once, last, and where the text ends. -/
theorem ends (tiles : Tiles position text tokens) :
    ∃ body, tokens = body ++ [Token.atEnd (position + byteWidth text)] ∧
      ∀ token ∈ body, token.kind ≠ .endOfInput := by
  induction tiles with
  | ending => exact ⟨[], rfl, by simp⟩
  | @token position gap rest token later _ running _ placed _ ih =>
    obtain ⟨body, same, inside⟩ := ih
    have stop : token.span.stop + byteWidth rest =
        position + byteWidth (gap ++ (token.text.toList ++ rest)) := by
      simp only [placed, Span.stop, byteWidth_append]
      omega
    rw [stop] at same
    exact ⟨token :: body, by rw [same, List.cons_append], by simpa [running] using inside⟩

/-- Every token stands in the text where its span says. -/
theorem covers (tiles : Tiles position text tokens) :
    ∀ token ∈ tokens, token.kind ≠ .endOfInput → token.text.toList ≠ [] ∧
      ∃ before after, text = before ++ (token.text.toList ++ after) ∧
        position + byteWidth before = token.span.position ∧
        byteWidth token.text.toList = token.span.length := by
  induction tiles with
  | ending => simp [Token.atEnd]
  | @token position gap rest token later _ _ visible placed _ ih =>
    intro other member running
    rcases List.mem_cons.1 member with rfl | inside
    · exact ⟨visible, gap, rest, rfl, by rw [placed], by rw [placed]⟩
    · obtain ⟨visible', before, after, same, start, width⟩ := ih other inside running
      refine ⟨visible', gap ++ (token.text.toList ++ before), after, by simp [same], ?_, width⟩
      simp only [← start, placed, Span.stop, byteWidth_append, Nat.add_assoc]

/-- No token begins before the text, nor before the one in front of it ends. -/
theorem ordered (tiles : Tiles position text tokens) :
    (∀ token ∈ tokens, position ≤ token.span.position) ∧
      tokens.Pairwise fun first second => first.span.stop ≤ second.span.position := by
  induction tiles with
  | ending => simp [Token.atEnd]
  | @token position gap rest token later _ _ _ placed _ ih =>
    obtain ⟨after, pairwise⟩ := ih
    have start : position ≤ token.span.position := by simp [placed]
    have stop : token.span.position ≤ token.span.stop := Nat.le_add_right _ _
    refine ⟨?_, List.pairwise_cons.2 ⟨after, pairwise⟩⟩
    intro other member
    rcases List.mem_cons.1 member with rfl | inside
    · exact start
    · exact Nat.le_trans (Nat.le_trans start stop) (after other inside)

theorem length_le (tiles : Tiles position text tokens) : tokens.length ≤ byteWidth text + 1 := by
  induction tiles with
  | ending => simp
  | token _ _ visible _ _ ih =>
    have wide := byteWidth_pos visible
    simp only [List.length_cons, byteWidth_append]
    omega

end Tiles

namespace Lexer

theorem tiles_tokens (text : List Char) (position : Nat) (context : LexicalContext) :
    Tiles position text (tokens ⟨text, position, context, false⟩) := by
  induction size : text.length using Nat.strongRecOn generalizing text position context with
  | ind size ih =>
    match text with
    | [] => exact tokens_nil position context ▸ .ending (by simp)
    | c :: text =>
      rw [List.length_cons] at size
      by_cases blank : isBlank c = true
      · rw [tokens_blank blank]
        exact .blank blank (ih text.length (by omega) text _ context rfl)
      · have shorter := Lexeme.first_rest_length_le c text
        have behind := ih _ (by omega) (Lexeme.first c text).rest
          (position + byteWidth (Lexeme.first c text).text)
          (context.after (context.kindOf (Lexeme.first c text))) rfl
        rw [tokens_cons (by simpa using blank), ← Lexeme.first_append c text]
        exact .lexeme (context.kindOf_ne_endOfInput (Lexeme.first_shape_ne_endOfInput c text))
          (Lexeme.first_text_ne_nil c text) behind

theorem tiles_tokenize (input : String) : Tiles 0 input.toList (tokenize input) :=
  tiles_tokens input.toList 0 .start

end Lexer

/-- The tokens of a text and the blanks between them are the text. The last token, and no other, is
the end of the input, and it stands where the text ends; every other one is some part of the text,
and its span is the place of that part. The parts follow each other without overlap, so there is at
most one for each byte of the text. -/
theorem Lexer.tokenize_lossless (input : String) :
    Tiles 0 input.toList (tokenize input) ∧
    (∃ body, tokenize input = body ++ [Token.atEnd (byteWidth input.toList)] ∧
      ∀ token ∈ body, token.kind ≠ .endOfInput ∧ token.text ≠ "" ∧
        token.span.Covers token.text.toList input.toList) ∧
    (tokenize input).Pairwise (fun first second => first.span.stop ≤ second.span.position) ∧
    (tokenize input).length ≤ byteWidth input.toList + 1 := by
  have tiles := Lexer.tiles_tokenize input
  obtain ⟨body, same, inside⟩ := tiles.ends
  rw [Nat.zero_add] at same
  refine ⟨tiles, ⟨body, same, ?_⟩, tiles.ordered.2, tiles.length_le⟩
  intro token member
  obtain ⟨visible, before, after, split, start, width⟩ :=
    tiles.covers token (by rw [same]; exact List.mem_append_left _ member) (inside token member)
  rw [Nat.zero_add] at start
  refine ⟨inside token member, ?_, before, after, split, start, width⟩
  rintro empty
  exact visible (by rw [empty]; rfl)

end SearchBox
