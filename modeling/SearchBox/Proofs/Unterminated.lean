import SearchBox.Proofs.Grammar.Unterminated
import SearchBox.Proofs.Lexing.Contexts
import SearchBox.Proofs.Reports

/-! A quote that is not closed is told as that, unless the query fails before it; but behind a value of a
list it is told as a token that is neither a comma nor the closing parenthesis. -/

namespace SearchBox

namespace LexicalContext

/-- In value position the word `IN` is reserved only in front of a parenthesis. -/
theorem head?_of_isIn {context : LexicalContext} {c : Char} {text : List Char}
    (expects : context.expectsValue = true)
    (isIn : context.kindOf (Lexeme.first c text) = .keyword .isIn) :
    ((Lexeme.first c text).rest.dropWhile isBlank).head? = some '(' := by
  unfold kindOf at isIn
  split at isIn
  · next fixed =>
    subst isIn
    exact absurd fixed (Lexeme.first_shape_ne (.inl rfl) c text)
  · rw [wordKind, if_pos expects] at isIn
    split at isIn
    · cases isIn
    · split at isIn
      · next opens =>
        simp only [opensList, Bool.and_eq_true, beq_iff_eq] at opens
        exact opens.2
      · exact absurd isIn (literalKind_ne_keyword _ _)

end LexicalContext

/-- A quote that is not closed takes all that is left of the text. -/
theorem Lexeme.rest_of_unterminated {c : Char} {text : List Char}
    (broken : (first c text).shape = .fixed .unterminated) : (first c text).rest = [] := by
  unfold first at broken ⊢
  split at broken
  case h_5 =>
    unfold ofQuote at broken ⊢
    split at broken
    · rcases withStar_kind broken with kind | kind <;> cases kind
    · rfl
  case h_11 =>
    unfold ofWord at broken
    split at broken
    · cases broken
    · rcases withStar_kind broken with kind | kind <;> cases kind
  all_goals cases broken

namespace Lexer

variable {input : String} {before later : List Token} {token : Token}

/-- Behind a quote that is not closed there is nothing but the end of the input. -/
theorem later_of_unterminated (read : tokenize input = before ++ token :: later)
    (broken : token.kind = .unterminated) : later = [Token.atEnd token.span.stop] := by
  obtain ⟨_, rest, context, _, _, ahead⟩ := exists_suffix read
  obtain ⟨_, c, text, rfl, _, _, made, behind⟩ := lexeme_of_tokens (by rw [broken]; nofun) ahead
  have kind : context.kindOf (Lexeme.first c text) = .unterminated := by rw [← broken, made]
  rw [behind, Lexeme.rest_of_unterminated (LexicalContext.shape_of_kindOf kind rfl nofun), tokens_nil]

/-- The word `IN` right behind a colon is a reserved word only in front of a parenthesis. -/
theorem leftParen_of_isIn {colon word : Token}
    (read : tokenize input = before ++ [colon, word] ++ token :: later)
    (isColon : colon.kind = .colon) (isIn : word.kind = .keyword .isIn) : token.kind = .leftParen := by
  have row : before ++ [colon, word] ++ token :: later =
      (before ++ [colon]) ++ word :: token :: later := by simp
  rw [row] at read
  obtain ⟨passed, rest, _, ahead⟩ := tokens_skip (running_of_before rfl read) read
  rw [LexicalContext.through_append, LexicalContext.through_cons, LexicalContext.through_nil,
    isColon] at ahead
  obtain ⟨_, c, text, rfl, _, _, made, behind⟩ := lexeme_of_tokens (by rw [isIn]; nofun) ahead
  have opening := LexicalContext.head?_of_isIn (LexicalContext.expectsValue_of_colon rfl)
    ((congrArg Token.kind made).symm.trans isIn)
  obtain ⟨inside, begins⟩ := List.head?_eq_some_iff.1 opening
  have split := (List.takeWhile_append_dropWhile (p := isBlank) (l := (Lexeme.first c text).rest)).symm
  have blank := List.all_eq_true.1 (@List.all_takeWhile _ isBlank (Lexeme.first c text).rest)
  rw [split, tokens_gap blank, begins, tokens_cons (by decide)] at behind
  rw [(List.cons.inj behind).1]
  rfl

end Lexer

/-- The limits are so wide that they are none for the text. -/
structure Limits.Spare (limits : Limits) (input : String) : Prop where
  length : byteWidth input.toList ≤ limits.maxInputLength
  depth : byteWidth input.toList < limits.maxDepth

namespace Query

open Grammar

variable {limits : Limits} {schema : Schema} {input : String} {diagnostic : Diagnostic}

/-- What is refused without a limit is refused with limits that are none. -/
theorem parse_of_refused (spare : limits.Spare input)
    (refused : Tree.ofTokens none (tokenize input) = .error diagnostic) :
    parse limits schema input = .error ⟨[diagnostic]⟩ := by
  have few : (tokenize input).length ≤ limits.maxDepth :=
    Nat.le_trans (Lexer.tiles_tokenize input).length_le spare.depth
  rw [parse_of_short spare.length, Tree.ofTokens_of_length_le few, refused]

/-- A token where the parser halts is told whatever comes behind it. -/
theorem parse_of_halts (spare : limits.Spare input) {before later : List Token} {token : Token}
    {stack : List Frame} {stage : Stage} (read : tokenize input = before ++ token :: later)
    (walk : Parser.Walk none before stack stage)
    (halts : Parser.Halts none stack stage token diagnostic) (running : token.kind ≠ .endOfInput) :
    parse limits schema input = .error ⟨[diagnostic]⟩ := by
  apply parse_of_refused spare
  rw [read]
  exact walk.ofTokens_of_halts halts (fun _ => running) later

section

variable {before later : List Token} {token : Token} (spare : limits.Spare input)
  (read : tokenize input = before ++ token :: later) (broken : token.kind = .unterminated)

include spare read broken

theorem parse_of_viable (viable : Viable before) (outside : ¬EndsInList before) :
    parse limits schema input = .error ⟨[Problem.unterminatedString.report token.span]⟩ := by
  have running : token.kind ≠ .endOfInput := by rw [broken]; nofun
  obtain ⟨stack, stage, walk⟩ := (viable_iff (Lexer.running_of_before rfl read)).1 viable
  have halts := Parser.halts_unterminated stack stage broken
  cases stage with
  | listOpening field =>
    -- no quote comes here, since `IN` behind a colon is a reserved word only before a parenthesis
    obtain ⟨earlier, colon, word, rfl, isColon, isIn⟩ := colon_of_walk walk
    have opening := Lexer.leftParen_of_isIn read isColon isIn
    rw [broken] at opening
    cases opening
  | listSeparator field opening values => exact absurd (endsInList_of_walk walk) outside
  | _ => exact parse_of_halts spare read walk halts running

theorem parse_of_endsInList (viable : Viable before) (inside : EndsInList before) :
    parse limits schema input = .error ⟨[(Problem.listNotContinued token).report token.span]⟩ := by
  have running : token.kind ≠ .endOfInput := by rw [broken]; nofun
  obtain ⟨stack, stage, walk⟩ := (viable_iff (Lexer.running_of_before rfl read)).1 viable
  have halts := Parser.halts_unterminated stack stage broken
  obtain ⟨field, opening, values, rfl⟩ := inside.stage_eq walk
  exact parse_of_halts spare read walk halts running

/-- If no row that is accepted begins with the tokens in front, one of those is to blame. -/
theorem parse_of_not_viable (dead : ¬Viable before) :
    ∃ diagnostic, parse limits schema input = .error ⟨[diagnostic]⟩ ∧
      diagnostic.span.stop ≤ token.span.position ∧ diagnostic.code ≠ .unterminatedString := by
  have running := Lexer.running_of_before rfl read
  rcases exists_walk_or_halts none running with walk |
    ⟨front, other, after, stack, stage, diagnostic, rfl, walk, halts⟩
  · exact absurd ((viable_iff running).2 walk) dead
  · have row : tokenize input = front ++ other :: (after ++ token :: later) := by
      rw [read, List.append_assoc, List.cons_append]
    have runs : other.kind ≠ .endOfInput := running other (by simp)
    refine ⟨diagnostic, parse_of_halts spare row walk halts runs, ?_, ?_⟩
    · have ordered := (Lexer.tiles_tokenize input).ordered.2
      have row' : front ++ other :: after ++ token :: later =
          (front ++ [other]) ++ (after ++ token :: later) := by simp
      rw [read, row'] at ordered
      obtain ⟨inFront, _, apart⟩ := List.pairwise_append.1 ordered
      obtain ⟨_, first, _, last, member, forward, same⟩ := walk.between_of_halts halts
        (fun ends => absurd ends runs) (Token.InOrder.startInOrder inFront)
      rw [same, Span.stop_upTo forward]
      exact apart last member token (by simp)
    · intro code
      -- it would be a quote that is not closed itself, with another token behind it
      have nothing := Lexer.later_of_unterminated row (Parser.unterminated_of_halts halts code).1
      have isLast : token = Token.atEnd other.span.stop := by
        have member : token ∈ after ++ token :: later := by simp
        rw [nothing] at member
        exact List.mem_singleton.1 member
      rw [isLast] at broken
      cases broken

end

/-- What is reported as a quote that is not closed is one, with whatever limits. -/
theorem unterminated_of_parse {error : QueryError} (refused : parse limits schema input = .error error)
    (member : diagnostic ∈ error.diagnostics) (code : diagnostic.code = .unterminatedString) :
    ∃ before token, tokenize input = before ++ [token, Token.atEnd token.span.stop] ∧
      token.kind = .unterminated ∧ error = ⟨[Problem.unterminatedString.report token.span]⟩ := by
  rcases outcome limits input with ⟨long, always⟩ | ⟨only, short, found, always⟩ | ⟨always⟩ |
    ⟨tree, short, found, always⟩
  · rw [always] at refused
    cases refused
    rw [List.mem_singleton.1 member] at code
    cases code
  · rw [always] at refused
    cases refused
    obtain rfl := List.mem_singleton.1 member
    rcases cut_ofTokens (some limits.maxDepth) (tokenize input) with same | ⟨other, refused, deep⟩
    · rw [found] at same
      obtain ⟨before, token, after, stack, stage, row, walk, halts, _⟩ :=
        Parser.exists_walk_of_refused (Lexer.stream_tokenize input).ended same.symm
      obtain ⟨broken, report⟩ := Parser.unterminated_of_halts halts code
      refine ⟨before, token, ?_, broken, by rw [report]⟩
      rw [row, Lexer.later_of_unterminated row broken]
    · rw [found] at refused
      cases refused
      rw [code] at deep
      cases deep
  · rw [always] at refused
    cases refused
  · rw [always] at refused
    obtain ⟨rfl, _⟩ := ofTree_eq_error refused
    have collected := tree.collected_problems schema diagnostic member
    rw [code] at collected
    cases collected

/-- If a quote is not closed, nothing is behind it and, with limits that are none, the query fails. It is
the quote that is reported, alone, if the tokens in front of it begin some row that is accepted, but for
one case: behind a value of a list a token is reported that does not go on with the list. If they begin
none, what is reported lies in front of the quote and is not said to be one. And with any limits nothing
but such a quote is reported as one. -/
theorem parse_unterminated (limits : Limits) (schema : Schema) (input : String) :
    (limits.Spare input → ∀ before token later, tokenize input = before ++ token :: later →
      token.kind = .unterminated →
      later = [Token.atEnd token.span.stop] ∧
      (Viable before → ¬EndsInList before → parse limits schema input =
        .error ⟨[Problem.unterminatedString.report token.span]⟩) ∧
      (Viable before → EndsInList before → parse limits schema input =
        .error ⟨[(Problem.listNotContinued token).report token.span]⟩) ∧
      (¬Viable before → ∃ diagnostic, parse limits schema input = .error ⟨[diagnostic]⟩ ∧
        diagnostic.span.stop ≤ token.span.position ∧ diagnostic.code ≠ .unterminatedString)) ∧
    ∀ error, parse limits schema input = .error error → ∀ diagnostic ∈ error.diagnostics,
      diagnostic.code = .unterminatedString → ∃ before token,
        tokenize input = before ++ [token, Token.atEnd token.span.stop] ∧
        token.kind = .unterminated ∧
        error = ⟨[Problem.unterminatedString.report token.span]⟩ := by
  constructor
  · intro spare before token later read broken
    exact ⟨Lexer.later_of_unterminated read broken, parse_of_viable spare read broken,
      parse_of_endsInList spare read broken, parse_of_not_viable spare read broken⟩
  · intro error refused diagnostic member code
    exact unterminated_of_parse refused member code

/-- The bound of a range that is not closed, behind a group that is not closed either; and a value of a
list. -/
theorem parse_unterminated_places :
    let broken : Token := ⟨.unterminated, "\"b", ⟨7, 2⟩⟩
    parse ⟨64, 64⟩ ⟨[]⟩ "(a f:> \"b" = .error ⟨[Problem.unterminatedString.report ⟨7, 2⟩]⟩ ∧
      parse ⟨64, 64⟩ ⟨[]⟩ "f:IN(a \"b" = .error ⟨[(Problem.listNotContinued broken).report ⟨7, 2⟩]⟩ := by
  intro broken
  constructor
  · let before : List Token := [⟨.leftParen, "(", ⟨0, 1⟩⟩, ⟨.word, "a", ⟨1, 1⟩⟩,
      ⟨.fieldName, "f", ⟨3, 1⟩⟩, ⟨.colon, ":", ⟨4, 1⟩⟩, ⟨.range (.bound .above), ">", ⟨5, 1⟩⟩]
    have read : tokenize "(a f:> \"b" = before ++ [broken, Token.atEnd 9] := by decide +kernel
    have viable : Viable before :=
      ⟨[⟨.value, "b", ⟨7, 1⟩⟩, ⟨.rightParen, ")", ⟨8, 1⟩⟩, Token.atEnd 9], _, rfl⟩
    have outside : ¬EndsInList before := by
      rintro ⟨earlier, word, opening, items, row, isWord, _⟩
      have none : ∀ token ∈ before, token.kind ≠ .keyword .isIn := by decide
      exact none word (by rw [row]; simp) isWord
    exact ((parse_unterminated _ _ _).1 ⟨by decide, by decide⟩ _ _ _ read rfl).2.1 viable outside
  · let front : List Token := [⟨.fieldName, "f", ⟨0, 1⟩⟩, ⟨.colon, ":", ⟨1, 1⟩⟩]
    let word : Token := ⟨.keyword .isIn, "IN", ⟨2, 2⟩⟩
    let opening : Token := ⟨.leftParen, "(", ⟨4, 1⟩⟩
    let items : Items := ⟨⟨⟨.value, "a", ⟨5, 1⟩⟩, rfl⟩, []⟩
    have read : tokenize "f:IN(a \"b" =
        (front ++ word :: opening :: items.tokens) ++ [broken, Token.atEnd 9] := by decide +kernel
    have viable : Viable (front ++ word :: opening :: items.tokens) :=
      ⟨[⟨.rightParen, ")", ⟨7, 1⟩⟩, Token.atEnd 8], _, rfl⟩
    have inside : EndsInList (front ++ word :: opening :: items.tokens) :=
      ⟨front, word, opening, items, rfl, rfl, rfl⟩
    exact ((parse_unterminated _ _ _).1 ⟨by decide, by decide⟩ _ _ _ read rfl).2.2.1 viable inside

/-- Not every quote that is not closed is reported, where the tokens in front of it are none to blame. -/
theorem not_parse_unterminated :
    ¬∀ (limits : Limits) (schema : Schema) (input : String) (before : List Token) (token : Token),
      limits.Spare input → tokenize input = before ++ [token, Token.atEnd token.span.stop] →
      token.kind = .unterminated → Viable before → parse limits schema input =
        .error ⟨[Problem.unterminatedString.report token.span]⟩ := by
  intro always
  let before : List Token := [⟨.fieldName, "f", ⟨0, 1⟩⟩, ⟨.colon, ":", ⟨1, 1⟩⟩,
    ⟨.keyword .isIn, "IN", ⟨2, 2⟩⟩, ⟨.leftParen, "(", ⟨4, 1⟩⟩, ⟨.value, "a", ⟨5, 1⟩⟩]
  let token : Token := ⟨.unterminated, "\"b", ⟨7, 2⟩⟩
  have viable : Viable before := ⟨[⟨.rightParen, ")", ⟨7, 1⟩⟩, Token.atEnd 8], _, rfl⟩
  have expected := always ⟨64, 64⟩ ⟨[]⟩ "f:IN(a \"b" before token ⟨by decide, by decide⟩
    (by decide +kernel) rfl viable
  have found : parse ⟨64, 64⟩ ⟨[]⟩ "f:IN(a \"b" =
      .error ⟨[(Problem.listNotContinued token).report token.span]⟩ := by decide +kernel
  rw [found] at expected
  cases congrArg (Except.mapError QueryError.codes) expected

end Query

end SearchBox
