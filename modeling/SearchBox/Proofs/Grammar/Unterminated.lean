import SearchBox.Proofs.Grammar.Exactness
import SearchBox.Proofs.Grammar.Viability

/-! A quote that is not closed, as the parser meets it. It fits nowhere, and wherever the parser stands
it says so in the same way, but for one place: behind a value of a list it asks for a comma or the
closing parenthesis, as it does at any other token. -/

namespace SearchBox

namespace Grammar

/-- The tokens begin some row that is accepted. -/
def Viable (before : List Token) : Prop :=
  ∃ more tree, Tree.ofTokens none (before ++ more) = .ok (some tree)

/-- The tokens end within the parentheses of a list, behind one of its values. -/
def EndsInList (before : List Token) : Prop :=
  ∃ earlier word opening, ∃ items : Items, before = earlier ++ word :: opening :: items.tokens ∧
    word.kind = .keyword .isIn ∧ opening.kind = .leftParen

end Grammar

namespace Parser

variable {limit : DepthLimit} {before : List Token} {stack stack' : List Frame}
  {stage stage' : Stage} {token : Token} {diagnostic : Diagnostic}

/-! Where a row of tokens leads. -/

theorem Walk.unique (walk : Walk limit before stack stage) (walk' : Walk limit before stack' stage') :
    stack = stack' ∧ stage = stage' := by
  induction walk generalizing stack' stage' with
  | start =>
    generalize none_left : ([] : List Token) = row at walk'
    cases walk' with
    | start => exact ⟨rfl, rfl⟩
    | onward _ _ => simp at none_left
  | onward _ taken ih =>
    obtain ⟨_, _, walk, taken'⟩ := walk'.last
    obtain ⟨rfl, rfl⟩ := ih walk
    rw [taken] at taken'
    cases taken'
    exact ⟨rfl, rfl⟩

/-- A walk comes by all beginnings of its row. -/
theorem Walk.front {later : List Token} (walk : Walk limit (before ++ later) stack stage) :
    ∃ stack' stage', Walk limit before stack' stage' := by
  generalize row : before ++ later = tokens at walk
  induction walk generalizing later with
  | start =>
    obtain ⟨rfl, _⟩ := List.append_eq_nil_iff.1 row
    exact ⟨_, _, .start⟩
  | @onward before' _ _ _ _ token walk taken ih =>
    rcases List.eq_nil_or_concat later with rfl | ⟨later, last, rfl⟩
    · rw [List.append_nil] at row
      exact ⟨_, _, row ▸ walk.onward taken⟩
    · rw [List.concat_eq_append, ← List.append_assoc] at row
      exact ih (List.append_inj' row rfl).1

theorem Walk.others {field : FieldName} {opening : Token} {values : List Literal}
    (walk : Walk limit before stack (.listSeparator field opening values))
    (others : List (Grammar.Mark .comma × Grammar.ValueToken)) :
    ∃ values', Walk limit (before ++ others.flatMap fun other => [other.1.val, other.2.val]) stack
      (.listSeparator field opening values') := by
  induction others generalizing before values with
  | nil => exact ⟨values, by rwa [List.flatMap_nil, List.append_nil]⟩
  | cons other others ih =>
    obtain ⟨comma, value⟩ := other
    have further := (walk.onward (step_comma stack field opening values comma)).onward
      (step_listValue stack field opening values value)
    obtain ⟨values', walk'⟩ := ih further
    exact ⟨values', by simpa using walk'⟩

theorem Walk.items {field : FieldName} {opening : Token}
    (walk : Walk limit before stack (.listValue field opening [])) (items : Grammar.Items) :
    ∃ values, Walk limit (before ++ items.tokens) stack (.listSeparator field opening values) := by
  obtain ⟨values, walk'⟩ :=
    (walk.onward (step_listValue stack field opening [] items.first)).others items.others
  exact ⟨values, by simpa [Grammar.Items.tokens] using walk'⟩

end Parser

namespace Grammar

variable {limit : DepthLimit} {before : List Token} {stack : List Frame} {stage : Stage}
  {token : Token} {diagnostic : Diagnostic}

/-- Tokens that are not the end of the input are walked to their end, or up to one where the parser halts. -/
theorem exists_walk_or_halts (limit : DepthLimit)
    (running : ∀ token ∈ before, token.kind ≠ .endOfInput) :
    (∃ stack stage, Parser.Walk limit before stack stage) ∨
      ∃ front token after stack stage diagnostic, before = front ++ token :: after ∧
        Parser.Walk limit front stack stage ∧ Parser.Halts limit stack stage token diagnostic := by
  rcases (@Parser.Walk.start limit).goesOn before with walk |
    ⟨front, token, after, stack, stage, rfl, walk, notTaken⟩
  · exact .inl walk
  · refine .inr ⟨front, token, after, stack, stage, ?_⟩
    cases moved : Parser.step limit stack stage token with
    | take stack' stage' => exact (notTaken stack' stage' moved).elim
    | finish tree =>
      exact ⟨Problem.unexpected token, rfl, walk, .inr ⟨tree, moved, running token (by simp), rfl⟩⟩
    | refuse diagnostic | refuseAfter diagnostic =>
      exact ⟨diagnostic, rfl, walk, .inl (by rw [moved]; rfl)⟩

/-- Some row that is accepted goes on from where the parser comes to, and from nowhere else. -/
theorem viable_iff (running : ∀ token ∈ before, token.kind ≠ .endOfInput) :
    Viable before ↔ ∃ stack stage, Parser.Walk none before stack stage := by
  constructor
  · rintro ⟨more, tree, accepted⟩
    rcases exists_walk_or_halts none running with walk |
      ⟨front, token, after, stack, stage, diagnostic, rfl, walk, halts⟩
    · exact walk
    · have refused := walk.ofTokens_of_halts halts (fun _ => running token (by simp)) (after ++ more)
      rw [List.append_assoc, List.cons_append, refused] at accepted
      cases accepted
  · rintro ⟨stack, stage, walk⟩
    obtain ⟨fillers, tree, _, accepted⟩ := walk.exists_accepted 0
    exact ⟨_, tree, accepted⟩

theorem EndsInList.stage_eq (ends : EndsInList before) (walk : Parser.Walk limit before stack stage) :
    ∃ field opening values, stage = .listSeparator field opening values := by
  obtain ⟨earlier, word, opening, items, rfl, isWord, opens⟩ := ends
  have row : earlier ++ word :: opening :: items.tokens =
      ((earlier ++ [word]) ++ [opening]) ++ items.tokens := by simp
  rw [row] at walk
  obtain ⟨_, _, front⟩ := walk.front
  obtain ⟨_, _, front', taken'⟩ := front.last
  obtain ⟨_, _, _, taken⟩ := front'.last
  obtain ⟨field, rfl⟩ := Parser.step_isIn isWord taken
  simp only [Parser.step, opens, if_true] at taken'
  cases taken'
  obtain ⟨values, walk'⟩ := front.items items
  exact ⟨field, opening, values, (walk.unique walk').2⟩

theorem endsInList_of_walk {field : FieldName} {opening : Token} {values : List Literal}
    (walk : Parser.Walk limit before stack (.listSeparator field opening values)) :
    EndsInList before := by
  obtain ⟨word, items, opens, _, earlier, name, colon, _, _, rfl⟩ := walk.reached
  exact ⟨earlier ++ [name.val, colon.val], word.val, opening, items, by simp, word.property, opens⟩

/-- The word `IN` that is taken stands right behind a colon. -/
theorem colon_of_walk {field : FieldName} (walk : Parser.Walk limit before stack (.listOpening field)) :
    ∃ earlier colon word, before = earlier ++ [colon, word] ∧ colon.kind = .colon ∧
      word.kind = .keyword .isIn := by
  obtain ⟨word, earlier, name, colon, _, _, rfl⟩ := walk.reached
  exact ⟨earlier ++ [name.val], colon.val, word.val, by simp, colon.property, word.property⟩

end Grammar

namespace Parser

variable {stack : List Frame} {stage : Stage} {token : Token} {diagnostic : Diagnostic}

/-- The report of a quote that is not closed. -/
theorem unexpected_unterminated (broken : token.kind = .unterminated) :
    Problem.unexpected token = Problem.unterminatedString.report token.span := by
  simp [Problem.unexpected, Problem.ofToken, Problem.spanOf, broken]

theorem startOperand_unterminated {limit : DepthLimit} (stack : List Frame)
    (broken : token.kind = .unterminated) :
    startOperand limit stack token = .refuse (Problem.unterminatedString.report token.span) := by
  simp [startOperand, broken, unexpected_unterminated broken]

theorem continueOperand_unterminated (stack : List Frame) (tree : Tree)
    (broken : token.kind = .unterminated) :
    continueOperand none stack tree token =
      .refuse (Problem.unterminatedString.report token.span) := by
  obtain ⟨closed, found, -⟩ := Frame.exists_closeConjunction stack tree
  simp [continueOperand, found, Move.ofExcept, broken, startOperand_unterminated _ broken]

theorem expectLiteral_unterminated (field : FieldName) (next : Literal → Move)
    (broken : token.kind = .unterminated) :
    expectLiteral field token next = .refuse (Problem.unterminatedString.report token.span) := by
  simp [expectLiteral, broken, unexpected_unterminated broken]

/-- At a quote that is not closed the parser halts everywhere, and reports the quote, except where a list
has to be opened or to go on. -/
theorem halts_unterminated (stack : List Frame) (stage : Stage) (broken : token.kind = .unterminated) :
    Halts none stack stage token (match stage with
      | .listOpening _ => (Problem.listNotOpened token).report token.span
      | .listSeparator _ _ _ => (Problem.listNotContinued token).report token.span
      | _ => Problem.unterminatedString.report token.span) := by
  left
  cases stage with
  | operand => simp [step, startOperand_unterminated _ broken, Move.diagnostic?]
  | afterOperand tree => simp [step, continueOperand_unterminated _ _ broken, Move.diagnostic?]
  | afterValue field value =>
    simp [step, broken, continueOperand_unterminated _ _ broken, Move.diagnostic?]
  | colon field => simp [step, broken, unexpected_unterminated broken, Move.diagnostic?]
  | clause field | bound field comparison | upperBound field lower | listValue field opening values =>
    simp [step, broken, expectLiteral_unterminated _ _ broken, Move.diagnostic?]
  | listOpening field | listSeparator field opening values => simp [step, broken, Move.diagnostic?]

/-- Whatever is refused by the move, it is not a quote that is not closed. -/
def Intact (move : Move) : Prop :=
  ∀ diagnostic, move.diagnostic? = some diagnostic → diagnostic.code ≠ .unterminatedString

theorem intact_take (stack : List Frame) (stage : Stage) : Intact (.take stack stage) :=
  nofun

theorem intact_refuse {problem : Problem} {span : Span} (other : problem.code ≠ .unterminatedString) :
    Intact (.refuse (problem.report span)) := by
  intro diagnostic given
  cases given
  exact other

theorem intact_refuseAfter {problem : Problem} {span : Span}
    (other : problem.code ≠ .unterminatedString) : Intact (.refuseAfter (problem.report span)) := by
  intro diagnostic given
  cases given
  exact other

theorem code_unexpected (intact : token.kind ≠ .unterminated) :
    (Problem.ofToken token).code ≠ .unterminatedString := by
  unfold Problem.ofToken
  split
  · next broken => exact absurd broken intact
  all_goals nofun

theorem intact_startOperand (stack : List Frame) (intact : token.kind ≠ .unterminated) :
    Intact (startOperand none stack token) := by
  unfold startOperand
  split
  case h_10 => exact intact_refuse (by simp [Problem.code])
  case h_11 => exact intact_refuse (by simp [Problem.code])
  case h_12 => exact intact_refuse (code_unexpected intact)
  all_goals exact intact_take _ _

theorem intact_continueOperand (stack : List Frame) (tree : Tree) (intact : token.kind ≠ .unterminated) :
    Intact (continueOperand none stack tree token) := by
  obtain ⟨⟨stack', tree'⟩, found, -⟩ := Frame.exists_closeConjunction stack tree
  obtain ⟨⟨stack'', tree''⟩, found', -⟩ := Frame.exists_closeDisjunction stack' tree'
  have group : Intact (endGroup stack'' tree'' token) := by
    unfold endGroup
    split
    · split
      · exact intact_take _ _
      · exact intact_refuse (by simp [Problem.code])
    · nofun
  simp only [continueOperand, found, found', Move.ofExcept]
  split
  · exact intact_take _ _
  · exact intact_take _ _
  · exact group
  · exact group
  · exact intact_startOperand _ intact

theorem intact_expectLiteral (field : FieldName) {next : Literal → Move}
    (intact : token.kind ≠ .unterminated) (each : ∀ value, Intact (next value)) :
    Intact (expectLiteral field token next) := by
  unfold expectLiteral
  split
  case h_5 => exact intact_refuse (by simp [Problem.code])
  case h_6 | h_7 => exact intact_refuse (code_unexpected intact)
  case h_8 => exact intact_refuse (by simp [Problem.code])
  all_goals exact each _

theorem intact_step (stack : List Frame) (stage : Stage) (intact : token.kind ≠ .unterminated) :
    Intact (step none stack stage token) := by
  cases stage with
  | operand => exact intact_startOperand stack intact
  | afterOperand tree => exact intact_continueOperand stack tree intact
  | bound field comparison | upperBound field lower =>
    exact intact_expectLiteral field intact fun _ => intact_take _ _
  | colon field =>
    simp only [step]
    split
    · exact intact_take _ _
    · exact intact_refuseAfter (code_unexpected intact)
  | clause field =>
    simp only [step]
    split
    · exact intact_take _ _
    · exact intact_refuse (by simp [Problem.code])
    · exact intact_take _ _
    · exact intact_expectLiteral field intact fun _ => intact_take _ _
  | afterValue field value =>
    simp only [step]
    split
    · exact intact_take _ _
    · exact intact_continueOperand stack _ intact
  | listOpening field =>
    simp only [step]
    split
    · exact intact_take _ _
    · exact intact_refuseAfter (by simp [Problem.code])
  | listValue field opening values =>
    simp only [step]
    split
    · exact intact_refuse (by simp [Problem.code])
    · exact intact_expectLiteral field intact fun _ => intact_take _ _
  | listSeparator field opening values =>
    simp only [step]
    split
    · exact intact_take _ _
    · exact intact_take _ _
    · exact intact_refuseAfter (by simp [Problem.code])

theorem Halts.unique {limit : DepthLimit} {other : Diagnostic}
    (halts : Halts limit stack stage token diagnostic) (halts' : Halts limit stack stage token other) :
    diagnostic = other := by
  rcases halts with given | ⟨tree, finished, _, rfl⟩
  · rcases halts' with given' | ⟨tree, finished, _⟩
    · rw [given] at given'
      exact Option.some.inj given'
    · rw [finished] at given
      cases given
  · rcases halts' with given' | ⟨_, _, _, rfl⟩
    · rw [finished] at given'
      cases given'
    · rfl

/-- Nothing else is reported as such a quote. -/
theorem unterminated_of_halts (halts : Halts none stack stage token diagnostic)
    (code : diagnostic.code = .unterminatedString) :
    token.kind = .unterminated ∧ diagnostic = Problem.unterminatedString.report token.span := by
  have broken : token.kind = .unterminated := by
    by_contra intact
    rcases halts with given | ⟨_, _, _, rfl⟩
    · exact intact_step stack stage intact diagnostic given code
    · exact code_unexpected intact code
  refine ⟨broken, ?_⟩
  have same := halts.unique (halts_unterminated stack stage broken)
  subst same
  cases stage with
  | listOpening field | listSeparator field opening values => cases code
  | _ => rfl

end Parser

end SearchBox
