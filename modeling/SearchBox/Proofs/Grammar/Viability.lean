import SearchBox.Proofs.Grammar.Loads

/-! Syntax errors point at the first impossible token. Whatever the parser waits for can be given to it,
so the tokens in front of the one where it halts begin some row that it accepts. What it does there
depends on none of the tokens behind, so no row that it accepts goes on with that token. -/

namespace SearchBox

/-- A token without a text that takes up no room. -/
def Token.blank (position : Nat) (kind : Kind) : Token :=
  ⟨kind, "", ⟨position, 0⟩⟩

/-- The kinds of tokens that complete the operand being read. -/
def Stage.completion : Stage → List Token.Kind
  | operand => [.word]
  | afterOperand _ | afterValue _ _ => []
  | colon _ => [.colon, .value]
  | clause _ | bound _ _ | upperBound _ _ => [.value]
  | listOpening _ => [.leftParen, .value, .rightParen]
  | listValue _ _ _ => [.value, .rightParen]
  | listSeparator _ _ _ => [.rightParen]

theorem Stage.completion_running (stage : Stage) : ∀ kind ∈ stage.completion, kind ≠ .endOfInput := by
  cases stage <;> simp [completion]

/-- A row of tokens with one end of the input, which comes last and takes up no room, and without a
token that begins before the one in front of it. -/
structure Token.Stream (tokens : List Token) : Prop where
  ends : ∃ body ending, tokens = body ++ [ending] ∧ ending.kind = .endOfInput ∧
    ending.span.length = 0 ∧ ∀ token ∈ body, token.kind ≠ .endOfInput
  ordered : StartInOrder tokens

theorem Token.Stream.flat {tokens : List Token} {token : Token} (stream : Stream tokens)
    (member : token ∈ tokens) (ends : token.kind = .endOfInput) : token.span.length = 0 := by
  obtain ⟨body, ending, rfl, _, empty, inside⟩ := stream.ends
  rcases List.mem_append.1 member with inBody | isLast
  · exact (inside token inBody ends).elim
  · rw [List.mem_singleton.1 isLast]
    exact empty

theorem Token.Stream.ended {tokens : List Token} (stream : Stream tokens) :
    ∃ token ∈ tokens, token.kind = .endOfInput := by
  obtain ⟨body, ending, rfl, ends, _⟩ := stream.ends
  exact ⟨ending, by simp, ends⟩

namespace Parser

variable {limit : DepthLimit} {before : List Token} {stack stack' : List Frame}
  {stage stage' : Stage} {token : Token} {diagnostic : Diagnostic}

/-- Behind a complete operand it is enough to close what is open. -/
theorem exists_closings (position : Nat) (stack : List Frame) (tree : Tree) :
    ∃ count whole, run none stack (.afterOperand tree)
        (List.replicate count (Token.blank position .rightParen) ++
          [Token.blank position .endOfInput]) =
      (.ok whole, [Token.blank position .endOfInput]) := by
  induction size : stack.length using Nat.strongRecOn generalizing stack tree with
  | ind size ih =>
    obtain ⟨⟨inner, part⟩, closed, -⟩ := Frame.exists_closeConjunction stack tree
    obtain ⟨⟨outer, whole⟩, closed', -⟩ := Frame.exists_closeDisjunction inner part
    have shorter : outer.length ≤ stack.length :=
      ((Frame.suffix_closeDisjunction closed').trans
        (Frame.suffix_closeConjunction closed)).length_le
    have ending : step none stack (.afterOperand tree) (Token.blank position .endOfInput) =
        endGroup outer whole (Token.blank position .endOfInput) := by
      simp only [step, continueOperand, closed, closed', Move.ofExcept, Token.blank]
    by_cases opened : ∃ opening lower, outer = .group opening :: lower
    · obtain ⟨opening, lower, rfl⟩ := opened
      have closes : ∃ span, step none stack (.afterOperand tree)
          (Token.blank position .rightParen) =
            .take lower (.afterOperand (whole.withSpan span)) := by
        simp only [step, continueOperand, closed, closed', Move.ofExcept, Token.blank, endGroup,
          if_true]
        exact ⟨_, rfl⟩
      obtain ⟨span, closes⟩ := closes
      obtain ⟨count, result, ran⟩ := ih lower.length
        (by rw [List.length_cons] at shorter; omega) lower (whole.withSpan span) rfl
      refine ⟨count + 1, result, ?_⟩
      rw [List.replicate_succ, List.cons_append, run_of_take _ closes, ran]
    · refine ⟨0, whole, ?_⟩
      have finished : endGroup outer whole (Token.blank position .endOfInput) = .finish whole := by
        unfold endGroup
        split
        · next opening lower => exact (opened ⟨opening, lower, rfl⟩).elim
        · rfl
      rw [List.replicate_zero, List.nil_append, run, ending, finished]

/-- What completes an operand leads behind an operand. -/
theorem exists_run_completion (position : Nat) (stack : List Frame) (stage : Stage) :
    ∃ tree, ∀ rest, Grammar.NoDots rest →
      run none stack stage (stage.completion.map (Token.blank position) ++ rest) =
        run none stack (.afterOperand tree) rest := by
  cases stage with
  | afterOperand tree => exact ⟨tree, fun _ _ => rfl⟩
  | afterValue field value => exact ⟨_, fun _ closed => run_afterValue stack field value closed⟩
  | colon field | clause field => exact ⟨_, fun _ closed => run_afterValue stack field _ closed⟩
  | operand | bound field comparison | upperBound field lower => exact ⟨_, fun _ _ => rfl⟩
  | listOpening field => exact ⟨_, fun _ _ => rfl⟩
  | listValue field opening values | listSeparator field opening values =>
    exact ⟨_, fun _ _ => rfl⟩

/-- From wherever the parser waits, some tokens lead to the end of a query. -/
theorem exists_fillers (position : Nat) (stack : List Frame) (stage : Stage) :
    ∃ fillers whole, (∀ token ∈ fillers, ∃ kind, token = Token.blank position kind ∧
        kind ≠ .endOfInput) ∧
      run none stack stage (fillers ++ [Token.blank position .endOfInput]) =
        (.ok whole, [Token.blank position .endOfInput]) := by
  obtain ⟨tree, completed⟩ := exists_run_completion position stack stage
  obtain ⟨count, whole, closed⟩ := exists_closings position stack tree
  refine ⟨stage.completion.map (Token.blank position) ++
    List.replicate count (Token.blank position .rightParen), whole, ?_, ?_⟩
  · intro token member
    rcases List.mem_append.1 member with inCompletion | inClosings
    · obtain ⟨kind, isKind, rfl⟩ := List.mem_map.1 inCompletion
      exact ⟨kind, rfl, stage.completion_running kind isKind⟩
    · exact ⟨.rightParen, List.eq_of_mem_replicate inClosings, nofun⟩
  · rw [List.append_assoc, completed, closed]
    cases count with
    | zero => exact ⟨_, _, rfl, nofun⟩
    | succ count => exact ⟨_, _, rfl, nofun⟩

/-- What the parser has taken begins a row that it accepts, whose rest takes up no room at the position. -/
theorem Walk.exists_accepted (walk : Walk none before stack stage) (position : Nat) :
    ∃ fillers tree, (∀ token ∈ fillers, ∃ kind, token = Token.blank position kind ∧
        kind ≠ .endOfInput) ∧
      Tree.ofTokens none (before ++ (fillers ++ [Token.blank position .endOfInput])) =
        .ok (some tree) := by
  obtain ⟨fillers, whole, filler, closed⟩ := exists_fillers position stack stage
  refine ⟨fillers, whole, filler, ?_⟩
  have ran := walk.run_append (fillers ++ [Token.blank position .endOfInput])
  rw [closed] at ran
  have starts : ((before ++ (fillers ++ [Token.blank position .endOfInput])).headD
      (Token.atEnd 0)).kind ≠ .endOfInput := by
    cases walk with
    | start =>
      cases fillers with
      | nil => cases closed
      | cons first others =>
        obtain ⟨kind, rfl, running⟩ := filler first List.mem_cons_self
        exact running
    | onward walk taken =>
      rw [List.append_assoc]
      apply walk.head_running
      intro _ ends
      exact step_ne_take_of_ends ends taken
  rw [ofTokens_of_run starts ran]
  rfl

/-- If none of the tokens taken stands behind the position, the whole row is in order. -/
theorem Walk.exists_stream (walk : Walk none before stack stage)
    (ordered : Token.StartInOrder before) {position : Nat}
    (behind : ∀ token ∈ before, token.span.position ≤ position) :
    ∃ more, (∀ token ∈ more, token.span = ⟨position, 0⟩) ∧ Token.Stream (before ++ more) ∧
      ∃ tree, Tree.ofTokens none (before ++ more) = .ok (some tree) := by
  obtain ⟨fillers, whole, filler, accepted⟩ := walk.exists_accepted position
  have here : ∀ token ∈ fillers ++ [Token.blank position .endOfInput],
      token.span = ⟨position, 0⟩ := by
    intro token member
    rcases List.mem_append.1 member with isFiller | isEnd
    · obtain ⟨kind, rfl, _⟩ := filler token isFiller
      rfl
    · rw [List.mem_singleton.1 isEnd]
      rfl
  refine ⟨fillers ++ [Token.blank position .endOfInput], here, ⟨?_, ?_⟩, whole, accepted⟩
  · refine ⟨before ++ fillers, _, (List.append_assoc ..).symm, rfl, rfl, ?_⟩
    intro token member
    rcases List.mem_append.1 member with earlier | isFiller
    · exact walk.running token earlier
    · obtain ⟨kind, rfl, running⟩ := filler token isFiller
      exact running
  · apply List.pairwise_append.2
    refine ⟨ordered, List.pairwise_of_forall_mem_list ?_, ?_⟩
    · intro first inFirst second inSecond
      apply Nat.le_of_eq
      rw [here first inFirst, here second inSecond]
    · intro first earlier second later
      rw [here second later]
      exact behind first earlier

/-- The token in front of the last one of a walk leads to where the last one was taken. -/
theorem Walk.last (walk : Walk limit (before ++ [token]) stack' stage') :
    ∃ stack stage, Walk limit before stack stage ∧
      step limit stack stage token = .take stack' stage' := by
  generalize row : before ++ [token] = tokens at walk
  cases walk with
  | start => simp at row
  | onward walk taken =>
    obtain ⟨rfl, same⟩ := List.append_inj' row rfl
    cases same
    exact ⟨_, _, walk, taken⟩

/-- The word `IN` is taken only behind the colon of a field. -/
theorem step_isIn (word : token.kind = .keyword .isIn)
    (taken : step limit stack stage token = .take stack' stage') :
    ∃ field, stage' = .listOpening field := by
  have notStarted (stack : List Frame) :
      startOperand limit stack token ≠ .take stack' stage' := by
    simp [startOperand, word]
  have notContinued (tree : Tree) :
      continueOperand limit stack tree token ≠ .take stack' stage' := by
    intro taken
    obtain ⟨inner, part, _, moves⟩ := Grammar.continueOperand_cases taken (.inl ⟨_, _, rfl⟩)
    rcases moves with ⟨kind, _⟩ | ⟨_, _, _, ⟨kind, _⟩ | ⟨kind, _⟩⟩ | move
    · simp [word] at kind
    · simp [word] at kind
    · simp [word] at kind
    · exact notStarted _ move.symm
  cases stage with
  | operand => exact (notStarted stack taken).elim
  | afterOperand tree => exact (notContinued tree taken).elim
  | afterValue field value =>
    simp only [step, word, reduceCtorEq, if_false] at taken
    exact (notContinued _ taken).elim
  | clause field =>
    simp only [step, word] at taken
    cases taken
    exact ⟨field, rfl⟩
  | colon | listOpening | listSeparator => simp [step, word] at taken
  | bound | upperBound | listValue => simp [step, expectLiteral, word] at taken

end Parser

namespace Grammar

/-- The token closes a list right behind its parenthesis. -/
def ClosesEmptyList (before : List Token) (opening token : Token) : Prop :=
  ∃ earlier word, before = earlier ++ [word, opening] ∧ word.kind = .keyword .isIn ∧
    opening.kind = .leftParen ∧ token.kind = .rightParen

variable {limit : DepthLimit} {before : List Token} {stack : List Frame} {stage : Stage}
  {opening token : Token} {diagnostic : Diagnostic}

theorem ClosesEmptyList.stage_eq (closes : ClosesEmptyList before opening token)
    (walk : Parser.Walk limit before stack stage) :
    ∃ field, stage = .listValue field opening [] := by
  obtain ⟨earlier, word, rfl, isWord, opens, _⟩ := closes
  rw [show earlier ++ [word, opening] = (earlier ++ [word]) ++ [opening] by simp] at walk
  obtain ⟨_, _, walk', taken'⟩ := walk.last
  obtain ⟨_, _, _, taken⟩ := walk'.last
  obtain ⟨field, rfl⟩ := Parser.step_isIn isWord taken
  simp only [Parser.step, opens, if_true] at taken'
  cases taken'
  exact ⟨field, rfl⟩

theorem closesEmptyList_of_walk {field : FieldName}
    (walk : Parser.Walk limit before stack (.listValue field opening []))
    (closing : token.kind = .rightParen) : ClosesEmptyList before opening token := by
  obtain ⟨word, opens, read⟩ := walk.reached
  rcases read with ⟨_, earlier, name, colon, _, _, rfl⟩ | ⟨items, comma, same, _⟩
  · exact ⟨earlier ++ [name.val, colon.val], word.val, by simp, word.property, opens, closing⟩
  · simp [Items.literals] at same

theorem ClosesEmptyList.span_eq (closes : ClosesEmptyList before opening token)
    (walk : Parser.Walk limit before stack stage)
    (halts : Parser.Halts limit stack stage token diagnostic) :
    diagnostic.span = Parser.emptyListSpan opening token := by
  obtain ⟨field, rfl⟩ := closes.stage_eq walk
  obtain ⟨_, _, _, _, _, closing⟩ := closes
  have moved : Parser.step limit stack (.listValue field opening []) token =
      .refuse ((Problem.emptyList field.name).report (Parser.emptyListSpan opening token)) :=
    if_pos ⟨closing, rfl⟩
  rcases halts with given | ⟨tree, finished, _⟩
  · rw [moved] at given
    cases given
    rfl
  · rw [moved] at finished
    cases finished

/-- Without a limit, whatever else is refused is the token itself. -/
theorem span_eq_of_halts (walk : Parser.Walk none before stack stage)
    (halts : Parser.Halts none stack stage token diagnostic)
    (flat : token.kind = .endOfInput → token.span.length = 0)
    (alone : ∀ opening, ¬ClosesEmptyList before opening token) : diagnostic.span = token.span := by
  rcases halts with given | ⟨tree, _, _, rfl⟩
  · rcases Parser.stops_step flat given with here | ⟨limited, _⟩ | ⟨field, opening, rfl, closing, _⟩
    · exact here.2
    · exact (limited rfl).elim
    · exact (alone opening (closesEmptyList_of_walk walk closing)).elim
  · exact (Problem.stops_unexpected flat).2

/-- Where a row is refused without a limit, some token of it is to blame. The report is on that token
alone, or, where the token closes a list before its first value, on the list from its parenthesis on.
The tokens in front of it begin some row that is accepted, whose other tokens take up no room where that
token begins, so nothing was refused too early. Every row that begins with them and the token itself is
refused in the same way, so nothing was refused too late. -/
theorem exists_first_impossible {tokens : List Token} (stream : Token.Stream tokens)
    (refused : Tree.ofTokens none tokens = .error diagnostic) :
    ∃ before token after, tokens = before ++ token :: after ∧
      (∀ opening, ClosesEmptyList before opening token →
        diagnostic.span.position = opening.span.position ∧
          diagnostic.span.stop = token.span.stop) ∧
      ((∀ opening, ¬ClosesEmptyList before opening token) → diagnostic.span = token.span) ∧
      (∃ more, (∀ other ∈ more, other.span = ⟨token.span.position, 0⟩) ∧
        Token.Stream (before ++ more) ∧
        ∃ tree, Tree.ofTokens none (before ++ more) = .ok (some tree)) ∧
      ∀ later, Tree.ofTokens none (before ++ token :: later) = .error diagnostic := by
  obtain ⟨before, token, after, stack, stage, rfl, walk, halts, running⟩ :=
    Parser.exists_walk_of_refused stream.ended refused
  have member : token ∈ before ++ token :: after := by simp
  have flat := stream.flat member
  have sorted := List.pairwise_append.1 stream.ordered
  refine ⟨before, token, after, rfl, ?_, span_eq_of_halts walk halts flat, ?_,
    walk.ofTokens_of_halts halts running⟩
  · intro opening closes
    rw [closes.span_eq walk halts]
    obtain ⟨earlier, word, rfl, _⟩ := closes
    have forward : opening.span.position ≤ token.span.position :=
      sorted.2.2 opening (by simp) token List.mem_cons_self
    refine ⟨rfl, Span.stop_upTo ?_⟩
    have stops := token.span.position_le_stop
    omega
  · apply walk.exists_stream sorted.1
    intro earlier member
    exact sorted.2.2 earlier member token List.mem_cons_self

/-- The row of `(a OR f:IN())`: the inner parenthesis is refused, on the span of `()`. -/
theorem exists_first_impossible_list :
    let row : List Token := [⟨.leftParen, "(", ⟨0, 1⟩⟩, ⟨.word, "a", ⟨1, 1⟩⟩,
      ⟨.keyword .or, "OR", ⟨3, 2⟩⟩, ⟨.fieldName, "f", ⟨6, 1⟩⟩, ⟨.colon, ":", ⟨7, 1⟩⟩,
      ⟨.keyword .isIn, "IN", ⟨8, 2⟩⟩, ⟨.leftParen, "(", ⟨10, 1⟩⟩, ⟨.rightParen, ")", ⟨11, 1⟩⟩,
      ⟨.rightParen, ")", ⟨12, 1⟩⟩, Token.atEnd 13]
    let diagnostic : Diagnostic := (Problem.emptyList "f").report ⟨10, 2⟩
    Token.Stream row ∧ Tree.ofTokens none row = .error diagnostic ∧
      ∃ before token after, row = before ++ token :: after ∧
        (∃ more, Token.Stream (before ++ more) ∧
          ∃ tree, Tree.ofTokens none (before ++ more) = .ok (some tree)) ∧
        ∀ later, Tree.ofTokens none (before ++ token :: later) = .error diagnostic := by
  intro row diagnostic
  have stream : Token.Stream row := by
    constructor
    · exact ⟨row.dropLast, Token.atEnd 13, rfl, rfl, rfl, by decide⟩
    · unfold Token.StartInOrder
      decide
  have refused : Tree.ofTokens none row = .error diagnostic := rfl
  obtain ⟨before, token, after, same, _, _, ⟨more, _, viable⟩, blocked⟩ :=
    exists_first_impossible stream refused
  exact ⟨stream, refused, before, token, after, same, ⟨more, viable⟩, blocked⟩

end Grammar

end SearchBox
