import SearchBox.Proofs.Grammar.Refusals

/-! Walks of the parser from its start. A row of tokens that is refused is walked up to the token where
the parser halts; the walk and the halt see nothing of the tokens behind it, and what is reported runs
from the start of a token of the row to the end of a token. -/

namespace SearchBox

/-- No token begins before the one in front of it. -/
def Token.StartInOrder (tokens : List Token) : Prop :=
  tokens.Pairwise fun first second => first.span.position ≤ second.span.position

theorem Token.InOrder.startInOrder {tokens : List Token} (ordered : InOrder tokens) :
    StartInOrder tokens :=
  ordered.imp fun {first _} apart => Nat.le_trans first.span.position_le_stop apart

theorem Token.StartInOrder.le {before after : List Token} {first second : Token}
    (ordered : StartInOrder (before ++ after)) (inBefore : first ∈ before)
    (inAfter : second ∈ after) : first.span.position ≤ second.span.position :=
  (List.pairwise_append.1 ordered).2.2 first inBefore second inAfter

/-- The span goes from the start of a token of the row to the end of one that ends no earlier. -/
def Span.Between (tokens : List Token) (span : Span) : Prop :=
  ∃ first ∈ tokens, ∃ last ∈ tokens, first.span.position ≤ last.span.stop ∧
    span = .upTo first.span.position last.span.stop

@[simp] theorem Span.upTo_position_stop (span : Span) : upTo span.position span.stop = span := by
  simp [upTo, stop]

theorem Span.between_of_mem {tokens : List Token} {token : Token} (member : token ∈ tokens) :
    token.span.Between tokens :=
  ⟨token, member, token, member, token.span.position_le_stop, by simp⟩

theorem Span.Between.mono {tokens more : List Token} {span : Span} (between : span.Between tokens)
    (within : ∀ token ∈ tokens, token ∈ more) : span.Between more := by
  obtain ⟨first, inFirst, last, inLast, forward, same⟩ := between
  exact ⟨first, within first inFirst, last, within last inLast, forward, same⟩

namespace Parser

variable {limit : DepthLimit} {before : List Token} {stack stack' : List Frame}
  {stage stage' : Stage} {token : Token} {diagnostic : Diagnostic}

/-- The tokens, taken one after another from the start, lead to the stack and the stage. -/
inductive Walk (limit : DepthLimit) : List Token → List Frame → Stage → Prop where
  | start : Walk limit [] [] .operand
  | onward {before : List Token} {stack stack' : List Frame} {stage stage' : Stage} {token : Token}
      (walk : Walk limit before stack stage)
      (taken : step limit stack stage token = .take stack' stage') :
      Walk limit (before ++ [token]) stack' stage'

theorem Walk.reached (walk : Walk limit before stack stage) :
    Grammar.Reached before stack stage := by
  induction walk with
  | start => exact Grammar.Opens.start
  | onward _ taken ih => exact ih.step taken

theorem Walk.run_append (walk : Walk limit before stack stage) (later : List Token) :
    run limit [] .operand (before ++ later) = run limit stack stage later := by
  induction walk generalizing later with
  | start => rfl
  | onward _ taken ih => rw [List.append_assoc, ih, List.singleton_append, run_of_take later taken]

/-! The marks of what is open are tokens that were taken. -/

theorem marks_startOperand (taken : startOperand limit stack token = .take stack' stage') :
    ∀ mark ∈ Frame.marks stack', mark ∈ token :: Frame.marks stack := by
  unfold startOperand openLevel at taken
  split at taken
  · split at taken
    · cases taken
      exact fun _ => id
    · cases taken
  · split at taken
    · cases taken
      exact fun _ => id
    · cases taken
  all_goals
    cases taken
  all_goals exact fun _ => List.mem_cons_of_mem _

theorem marks_continueOperand {tree : Tree}
    (taken : continueOperand limit stack tree token = .take stack' stage') :
    ∀ mark ∈ Frame.marks stack', mark ∈ token :: Frame.marks stack := by
  obtain ⟨inner, part, closed, moves⟩ := Grammar.continueOperand_cases taken (.inl ⟨_, _, rfl⟩)
  have fewer := Frame.mem_marks_of_suffix (Frame.suffix_closeConjunction closed)
  intro mark member
  rcases moves with ⟨_, move⟩ | ⟨outer, whole, closed', moves⟩ | move
  · cases move
    exact (List.mem_cons.1 member).elim (· ▸ List.mem_cons_self)
      fun inside => List.mem_cons_of_mem _ (fewer mark inside)
  · have fewer' := Frame.mem_marks_of_suffix (Frame.suffix_closeDisjunction closed')
    rcases moves with ⟨_, move⟩ | ⟨_, move⟩
    · cases move
      exact (List.mem_cons.1 member).elim (· ▸ List.mem_cons_self)
        fun inside => List.mem_cons_of_mem _ (fewer mark (fewer' mark inside))
    · apply List.mem_cons_of_mem _ (fewer mark (fewer' mark _))
      unfold endGroup at move
      split at move
      · split at move
        · cases move
          exact List.mem_cons_of_mem _ member
        · cases move
      · cases move
  · rcases List.mem_cons.1 (marks_startOperand move.symm mark member) with rfl | inside
    · exact List.mem_cons_self
    · exact (List.mem_cons.1 inside).elim (· ▸ List.mem_cons_self)
        fun inside => List.mem_cons_of_mem _ (fewer mark inside)

theorem marks_expectLiteral {field : FieldName} {next : Literal → Stage}
    (taken : expectLiteral field token (fun value => .take stack (next value)) = .take stack' stage') :
    ∀ mark ∈ Frame.marks stack', mark ∈ token :: Frame.marks stack := by
  obtain ⟨_, taken⟩ := Grammar.literal_of_expectLiteral taken
  cases taken
  exact fun _ => List.mem_cons_of_mem _

theorem marks_step (taken : step limit stack stage token = .take stack' stage') :
    ∀ mark ∈ Frame.marks stack', mark ∈ token :: Frame.marks stack := by
  have kept : ∀ mark ∈ Frame.marks stack, mark ∈ token :: Frame.marks stack :=
    fun _ => List.mem_cons_of_mem _
  cases stage with
  | operand => exact marks_startOperand taken
  | afterOperand tree => exact marks_continueOperand taken
  | colon | listOpening =>
    simp only [step] at taken
    split at taken
    · cases taken
      exact kept
    · cases taken
  | clause field =>
    simp only [step] at taken
    split at taken
    · cases taken
      exact kept
    · cases taken
    · cases taken
      exact kept
    · exact marks_expectLiteral taken
  | bound | upperBound =>
    rw [step] at taken
    exact marks_expectLiteral taken
  | afterValue field value =>
    simp only [step] at taken
    split at taken
    · cases taken
      exact kept
    · exact marks_continueOperand taken
  | listValue field opening values =>
    simp only [step] at taken
    split at taken
    · cases taken
    · exact marks_expectLiteral taken
  | listSeparator field opening values =>
    simp only [step] at taken
    split at taken
    · cases taken
      exact kept
    · cases taken
      exact kept
    · cases taken

theorem Walk.marks (walk : Walk limit before stack stage) :
    ∀ mark ∈ Frame.marks stack, mark ∈ before := by
  induction walk with
  | start => nofun
  | onward _ taken ih =>
    intro mark member
    rcases List.mem_cons.1 (marks_step taken mark member) with rfl | earlier
    · exact List.mem_append_right _ List.mem_cons_self
    · exact List.mem_append_left _ (ih mark earlier)

theorem Walk.opening_mem {field : FieldName} {opening : Token} {values : List Literal}
    (walk : Walk limit before stack (.listValue field opening values)) : opening ∈ before := by
  obtain ⟨word, _, read⟩ := walk.reached
  rcases read with ⟨_, earlier, name, colon, _, _, rfl⟩ |
    ⟨items, comma, _, earlier, name, colon, _, _, rfl⟩
  · simp
  · simp

/-- The end of the input is never taken. -/
theorem step_ne_take_of_ends (ends : token.kind = .endOfInput) :
    step limit stack stage token ≠ .take stack' stage' := by
  have continues (tree : Tree) : continueOperand limit stack tree token ≠ .take stack' stage' := by
    intro taken
    obtain ⟨inner, part, _, moves⟩ := Grammar.continueOperand_cases taken (.inl ⟨_, _, rfl⟩)
    rcases moves with ⟨kind, _⟩ | ⟨outer, whole, _, ⟨kind, _⟩ | ⟨_, move⟩⟩ | move
    · simp [ends] at kind
    · simp [ends] at kind
    · unfold endGroup at move
      split at move
      · simp [ends] at move
      · cases move
    · simp [startOperand, ends] at move
  cases stage with
  | afterOperand tree => exact continues tree
  | afterValue field value =>
    simp only [step, ends, reduceCtorEq, if_false]
    exact continues _
  | operand => simp [step, startOperand, ends]
  | colon | listOpening | listSeparator => simp [step, ends]
  | clause | bound | upperBound | listValue => simp [step, expectLiteral, ends]

theorem Walk.running (walk : Walk limit before stack stage) :
    ∀ token ∈ before, token.kind ≠ .endOfInput := by
  induction walk with
  | start => nofun
  | onward _ taken ih =>
    intro token member ends
    rcases List.mem_append.1 member with earlier | last
    · exact ih token earlier ends
    · obtain rfl := List.mem_singleton.1 last
      exact step_ne_take_of_ends ends taken

/-- A walk goes on to the end of the row, or up to the first token that is not taken. -/
theorem Walk.goesOn (walk : Walk limit before stack stage) (tokens : List Token) :
    (∃ stack' stage', Walk limit (before ++ tokens) stack' stage') ∨
      ∃ middle token after stack' stage', tokens = middle ++ token :: after ∧
        Walk limit (before ++ middle) stack' stage' ∧
        ∀ stack'' stage'', step limit stack' stage' token ≠ .take stack'' stage'' := by
  induction tokens generalizing before stack stage with
  | nil => exact .inl ⟨stack, stage, by rwa [List.append_nil]⟩
  | cons token tokens ih =>
    by_cases taken : ∃ stack' stage', step limit stack stage token = .take stack' stage'
    · obtain ⟨stack', stage', taken⟩ := taken
      have longer := walk.onward taken
      rcases ih longer with ⟨stack'', stage'', walk'⟩ |
        ⟨middle, token', after, stack'', stage'', rfl, walk', halts⟩
      · exact .inl ⟨stack'', stage'', by simpa using walk'⟩
      · exact .inr ⟨token :: middle, token', after, stack'', stage'', rfl, by simpa using walk', halts⟩
    · exact .inr ⟨[], token, tokens, stack, stage, rfl, by rwa [List.append_nil],
        fun stack' stage' here => taken ⟨stack', stage', here⟩⟩

/-- The parser goes no further: it gives the query up at the token, or the query is complete in front
of the token although the token is not the end of the input. -/
def Halts (limit : DepthLimit) (stack : List Frame) (stage : Stage) (token : Token)
    (diagnostic : Diagnostic) : Prop :=
  (step limit stack stage token).diagnostic? = some diagnostic ∨
    ∃ tree, step limit stack stage token = .finish tree ∧ token.kind ≠ .endOfInput ∧
      diagnostic = Problem.unexpected token

/-- A row that does not begin with its end is read from the start, and nothing may be left over. -/
theorem ofTokens_of_run {tokens rest : List Token} {result : Except Diagnostic Tree}
    (running : (tokens.headD (Token.atEnd 0)).kind ≠ .endOfInput)
    (ran : run limit [] .operand tokens = (result, rest)) :
    Tree.ofTokens limit tokens =
      result.bind fun tree => (expectEnd ⟨rest, limit⟩).map fun _ => some tree := by
  rw [Tree.ofTokens, parse, if_neg (show (ahead ⟨tokens, limit⟩).kind ≠ _ from running)]
  show (do
    let tree ← (run limit [] .operand tokens).1.map some
    expectEnd ⟨(run limit [] .operand tokens).2, limit⟩
    return tree) = _
  rw [ran]
  cases result with
  | error => rfl
  | ok tree =>
    show (expectEnd ⟨rest, limit⟩ >>= fun _ => pure (some tree)) = _
    cases expectEnd ⟨rest, limit⟩ <;> rfl

/-- The row begins with a token that is not the end, if the token behind the walk does not end it. -/
theorem Walk.head_running (walk : Walk limit before stack stage)
    (running : before = [] → token.kind ≠ .endOfInput) (later : List Token) :
    ((before ++ token :: later).headD (Token.atEnd 0)).kind ≠ .endOfInput := by
  cases before with
  | nil => exact running rfl
  | cons first others => exact walk.running first List.mem_cons_self

/-- Where the parser halts, it halts for every row that goes on from there. -/
theorem Walk.ofTokens_of_halts (walk : Walk limit before stack stage)
    (halts : Halts limit stack stage token diagnostic)
    (running : before = [] → token.kind ≠ .endOfInput) (later : List Token) :
    Tree.ofTokens limit (before ++ token :: later) = .error diagnostic := by
  have starts := walk.head_running running later
  have ran := walk.run_append (token :: later)
  rw [run] at ran
  rcases halts with refused | ⟨tree, finished, goesOn, rfl⟩
  · cases moved : step limit stack stage token with
    | take stack' stage' | finish tree =>
      rw [moved] at refused
      cases refused
    | refuse problem | refuseAfter problem =>
      rw [moved] at refused ran
      cases refused
      exact ofTokens_of_run starts ran
  · have leftOver : expectEnd ⟨token :: later, limit⟩ = .error (Problem.unexpected token) :=
      if_neg goesOn
    rw [finished] at ran
    rw [ofTokens_of_run starts ran, Except.bind, leftOver]
    rfl

/-- A row with an end that is refused is walked up to the token where the parser halts. -/
theorem exists_walk_of_refused {tokens : List Token}
    (ended : ∃ token ∈ tokens, token.kind = .endOfInput)
    (refused : Tree.ofTokens limit tokens = .error diagnostic) :
    ∃ before token after stack stage, tokens = before ++ token :: after ∧
      Walk limit before stack stage ∧ Halts limit stack stage token diagnostic ∧
      (before = [] → token.kind ≠ .endOfInput) := by
  rcases (@Walk.start limit).goesOn tokens with ⟨stack, stage, walk⟩ |
    ⟨before, token, after, stack, stage, rfl, walk, halts⟩
  · obtain ⟨token, member, ends⟩ := ended
    exact (walk.running token member ends).elim
  · rw [List.nil_append] at walk
    have running (empty : before = []) : token.kind ≠ .endOfInput := by
      intro ends
      subst empty
      have blank : (ahead ⟨[] ++ token :: after, limit⟩).kind = .endOfInput := ends
      rw [Tree.ofTokens, parse, if_pos blank] at refused
      simp only [expectEnd, if_pos blank] at refused
      cases refused
    have starts := walk.head_running running after
    have ran := walk.run_append (token :: after)
    rw [run] at ran
    refine ⟨before, token, after, stack, stage, rfl, walk, ?_, running⟩
    cases moved : step limit stack stage token with
    | take stack' stage' => exact (halts stack' stage' moved).elim
    | finish tree =>
      rw [moved] at ran
      rw [ofTokens_of_run starts ran, Except.bind] at refused
      by_cases ends : token.kind = .endOfInput
      · have done : expectEnd ⟨token :: after, limit⟩ = .ok () := if_pos ends
        rw [done] at refused
        cases refused
      · have leftOver : expectEnd ⟨token :: after, limit⟩ = .error (Problem.unexpected token) :=
          if_neg ends
        rw [leftOver] at refused
        cases refused
        exact .inr ⟨tree, moved, ends, rfl⟩
    | refuse problem | refuseAfter problem =>
      rw [moved] at ran
      rw [ofTokens_of_run starts ran] at refused
      cases refused
      exact .inl (by rw [moved]; rfl)

/-- What is reported where the parser halts stops the reading, and runs from the start of a token
to the end of one that is the same or comes later. -/
theorem Walk.between_of_halts (walk : Walk limit before stack stage)
    (halts : Halts limit stack stage token diagnostic)
    (flat : token.kind = .endOfInput → token.span.length = 0)
    (ordered : Token.StartInOrder (before ++ [token])) :
    diagnostic.code.isSyntax = true ∧ diagnostic.span.Between (before ++ [token]) := by
  have ofMember {mark : Token} (member : mark ∈ before ++ [token])
      (stops : diagnostic.Stops mark.span) :
      diagnostic.code.isSyntax = true ∧ diagnostic.span.Between (before ++ [token]) := by
    obtain ⟨fatal, here⟩ := stops
    exact ⟨fatal, here ▸ Span.between_of_mem member⟩
  have isLast : token ∈ before ++ [token] := List.mem_append_right _ List.mem_cons_self
  rcases halts with refused | ⟨tree, _, _, rfl⟩
  · rcases stops_step flat refused with here | ⟨_, mark, member, stops⟩ |
      ⟨field, opening, rfl, _, fatal, here⟩
    · exact ofMember isLast here
    · exact ofMember (List.mem_append_left _ (walk.marks mark member)) stops
    · have earlier := walk.opening_mem
      have forward := ordered.le earlier List.mem_cons_self
      have ends := token.span.position_le_stop
      exact ⟨fatal, opening, List.mem_append_left _ earlier, token, isLast, by omega, here⟩
  · exact ofMember isLast (Problem.stops_unexpected flat)

end Parser

end SearchBox
