import Mathlib.Data.List.Forall2
import SearchBox.Proofs.Lexing.Slices
import SearchBox.Proofs.Lexing.Tiling

/-! Tokens end where they end in every context. What was read before decides no more than which of the
kinds of plain words a word has, so a text read from the start of any of its tokens on is cut as it is
within the whole. -/

namespace SearchBox

namespace Token

/-- The second token is the first one further back in the text, only that a plain word may have become
a plain word of another kind. -/
structure Recut (distance : Nat) (first second : Token) : Prop where
  text_eq : second.text = first.text
  span_eq : second.span = first.span.moved distance
  kind_eq : second.kind = first.kind ∨
    first.kind.isPlainWord = true ∧ second.kind.isPlainWord = true

end Token

namespace LexicalContext

/-- In two contexts a lexeme has the same kind, or two kinds of plain words. -/
theorem kindOf_recut (context context' : LexicalContext) (lexeme : Lexeme) :
    context'.kindOf lexeme = context.kindOf lexeme ∨
      (context.kindOf lexeme).isPlainWord = true ∧ (context'.kindOf lexeme).isPlainWord = true := by
  unfold kindOf
  split
  · exact .inl rfl
  · by_cases colon : lexeme.rest.head? = some ':'
    · exact .inl (by rw [wordKind, wordKind, if_pos colon, if_pos colon])
    · exact .inr ⟨isPlainWord_wordKind _ colon, isPlainWord_wordKind _ colon⟩

end LexicalContext

namespace Lexer

/-- Two readers at the same place of a text cut it alike, whatever each of them has read before. -/
theorem tokens_recut (text : List Char) (position distance : Nat) (context context' : LexicalContext) :
    List.Forall₂ (Token.Recut distance) (tokens ⟨text, position, context, false⟩)
      (tokens ⟨text, position + distance, context', false⟩) := by
  induction size : text.length using Nat.strongRecOn generalizing text position context context' with
  | ind size ih =>
    match text with
    | [] =>
      rw [tokens_nil, tokens_nil]
      exact .cons ⟨rfl, rfl, .inl rfl⟩ .nil
    | c :: text =>
      rw [List.length_cons] at size
      by_cases blank : isBlank c = true
      · rw [tokens_blank blank, tokens_blank blank, Nat.add_right_comm]
        exact ih text.length (by omega) text _ _ _ rfl
      · have shorter := Lexeme.first_rest_length_le c text
        have visible : isBlank c = false := by simpa using blank
        rw [tokens_cons visible, tokens_cons visible]
        refine .cons ⟨rfl, rfl, context.kindOf_recut context' _⟩ ?_
        rw [Nat.add_right_comm]
        exact ih _ (by omega) _ _ _ _ rfl

/-- Behind blanks the next token begins at once. -/
theorem position_of_tokens {text : List Char} {position : Nat} {context : LexicalContext}
    {token : Token} {later : List Token} (visible : ∀ c ∈ text.head?, isBlank c = false)
    (read : tokens ⟨text, position, context, false⟩ = token :: later) :
    token.span.position = position := by
  cases text with
  | nil =>
    rw [tokens_nil] at read
    cases read
    rfl
  | cons c text =>
    rw [tokens_cons (visible c rfl)] at read
    cases read
    rfl

/-- A token and those behind it are read from a part of the text that begins where the token does. -/
theorem exists_suffix {input : String} {before later : List Token} {token : Token}
    (read : tokenize input = before ++ token :: later) :
    ∃ passed rest context, input.toList = passed ++ rest ∧ byteWidth passed = token.span.position ∧
      tokens ⟨rest, token.span.position, context, false⟩ = token :: later := by
  obtain ⟨passed, text, whole, ahead⟩ := tokens_skip (running_of_before rfl read) read
  rw [Nat.zero_add] at ahead
  have split := (List.takeWhile_append_dropWhile (p := isBlank) (l := text)).symm
  have blank : ∀ c ∈ text.takeWhile isBlank, isBlank c = true := List.all_eq_true.1 List.all_takeWhile
  rw [split, tokens_gap blank] at ahead
  have visible : ∀ c ∈ (text.dropWhile isBlank).head?, isBlank c = false := by
    intro c first
    have stopped := List.head?_dropWhile_not isBlank text
    rw [Option.mem_def.1 first] at stopped
    simpa using stopped
  have start := position_of_tokens visible ahead
  refine ⟨passed ++ text.takeWhile isBlank, text.dropWhile isBlank, _, ?_, ?_, start ▸ ahead⟩
  · rw [List.append_assoc, ← split, whole]
  · rw [byteWidth_append, start]

end Lexer

/-- Two ways to part a text at the same byte are one. -/
theorem append_inj_of_byteWidth {first second first' second' : List Char}
    (same : first ++ second = first' ++ second') (width : byteWidth first = byteWidth first') :
    first = first' ∧ second = second' := by
  have nothing (more : List Char) (flat : byteWidth more = 0) : more = [] := by
    cases more with
    | nil => rfl
    | cons c more => exact absurd flat (Nat.ne_of_gt (byteWidth_pos (List.cons_ne_nil c more)))
  rcases List.append_eq_append_iff.1 same with ⟨more, rfl, rfl⟩ | ⟨more, rfl, rfl⟩
  all_goals
    rw [byteWidth_append] at width
    obtain rfl := nothing more (by omega)
    simp

/-- A text can be parted where any of its tokens begins, the end of the input included. What begins
there, read as a text of its own, has the tokens from that one on: with the same texts, each as far from
the place where the text was parted as it stands behind it in the whole, and of the same kinds, except
that a plain word may be a plain word of another kind. -/
theorem Lexer.tokenize_suffix {input : String} {before later : List Token} {token : Token}
    (read : tokenize input = before ++ token :: later) :
    (∃ passed suffix : String, input = passed ++ suffix ∧
      byteWidth passed.toList = token.span.position) ∧
    ∀ passed suffix : String, input = passed ++ suffix →
      byteWidth passed.toList = token.span.position →
      List.Forall₂ (Token.Recut token.span.position) (tokenize suffix) (token :: later) := by
  obtain ⟨front, rest, context, whole, width, ahead⟩ := exists_suffix read
  constructor
  · refine ⟨String.ofList front, String.ofList rest, ?_, by rwa [String.toList_ofList]⟩
    rw [← String.ofList_append, ← whole, String.ofList_toList]
  · rintro passed suffix rfl start
    rw [String.toList_append] at whole
    obtain ⟨_, rfl⟩ := append_inj_of_byteWidth whole (start.trans width.symm)
    have recut := tokens_recut suffix.toList 0 token.span.position .start context
    rwa [Nat.zero_add, ahead] at recut

/-- Within its list `or` is a value, and `10` a number; read alone they are a reserved word and a search
word. The quote that is not closed is one token in both. -/
theorem Lexer.tokenize_suffix_list :
    let later : List Token := [⟨.comma, ",", ⟨7, 1⟩⟩, ⟨.value, "or", ⟨9, 2⟩⟩, ⟨.rightParen, ")", ⟨12, 1⟩⟩,
      ⟨.unterminated, "\"z )", ⟨14, 4⟩⟩, Token.atEnd 18]
    tokenize "f:in(10, or ) \"z )" =
        [⟨.fieldName, "f", ⟨0, 1⟩⟩, ⟨.colon, ":", ⟨1, 1⟩⟩, ⟨.keyword .isIn, "in", ⟨2, 2⟩⟩,
          ⟨.leftParen, "(", ⟨4, 1⟩⟩] ++ ⟨.number, "10", ⟨5, 2⟩⟩ :: later ∧
      (tokenize "10, or ) \"z )").map Token.kind =
        [.word, .comma, .keyword .or, .rightParen, .unterminated, .endOfInput] ∧
      List.Forall₂ (Token.Recut 5) (tokenize "10, or ) \"z )") (⟨.number, "10", ⟨5, 2⟩⟩ :: later) := by
  intro later
  have read : tokenize "f:in(10, or ) \"z )" =
      [⟨.fieldName, "f", ⟨0, 1⟩⟩, ⟨.colon, ":", ⟨1, 1⟩⟩, ⟨.keyword .isIn, "in", ⟨2, 2⟩⟩,
        ⟨.leftParen, "(", ⟨4, 1⟩⟩] ++ ⟨.number, "10", ⟨5, 2⟩⟩ :: later := by decide +kernel
  exact ⟨read, by decide +kernel, (tokenize_suffix read).2 "f:in(" _ rfl rfl⟩

end SearchBox
