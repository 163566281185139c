import SearchBox.Proofs.Grammar.Walks

/-! A limit that no row of tokens reaches. What is open and the heights of the trees that were built
weigh, together, no more than the tokens that were taken: every token adds at most one. So a limit of at
least as many levels as there are tokens changes nothing. -/

namespace SearchBox

/-- What a tree weighs, which is its height. -/
def Tree.load (tree : Tree) : Nat :=
  max 1 tree.depth

namespace Tree

theorem load_joined_le (connective : Connective) (left right : Tree) :
    (joined connective left right).load ≤ left.load + right.load := by
  simp only [load, depth_joined]
  omega

theorem load_negated_le (start : Nat) (inner : Tree) : (inner.negated start).load ≤ 1 + inner.load := by
  simp only [load, depth_negated]
  omega

theorem load_withSpan (span : Span) (tree : Tree) : (tree.withSpan span).load = tree.load := by
  rw [load, depth_withSpan, load]

end Tree

theorem DepthLimit.check_of_load_le {most : Nat} {tree : Tree} (low : tree.load ≤ most) (mark : Token) :
    DepthLimit.check (some most) tree mark = .ok tree := by
  have allowed : DepthLimit.allows (some most) tree.depth = true :=
    decide_eq_true (Nat.le_trans (Nat.le_max_right _ _) low)
  exact if_pos allowed

namespace Frame

def load : Frame → Nat
  | group _ | negation _ => 1
  | join _ left _ => left.load

/-- What all that is open weighs. -/
def loads : List Frame → Nat
  | [] => 0
  | frame :: stack => frame.load + loads stack

theorem nesting_le_loads (stack : List Frame) : nesting stack ≤ loads stack := by
  induction stack with
  | nil => exact Nat.le_refl 0
  | cons frame stack ih =>
    rw [loads]
    cases frame <;> simp only [nesting, load] <;> omega

/-! Without a limit all that ends with an operand can be closed, which makes it no heavier; and so it can
with a limit of as much as it weighs. -/

theorem exists_closeConjunction (stack : List Frame) (tree : Tree) :
    ∃ closed, closeConjunction none stack tree = .ok closed ∧
      loads closed.1 + closed.2.load ≤ loads stack + tree.load ∧
      ∀ most, loads stack + tree.load ≤ most → closeConjunction (some most) stack tree = .ok closed := by
  induction stack generalizing tree with
  | nil => exact ⟨_, rfl, Nat.le_refl _, fun _ _ => rfl⟩
  | cons frame stack ih =>
    match frame with
    | .group opening => exact ⟨_, rfl, Nat.le_refl _, fun _ _ => rfl⟩
    | .join .or left mark => exact ⟨_, rfl, Nat.le_refl _, fun _ _ => rfl⟩
    | .negation mark =>
      have lighter := tree.load_negated_le mark.span.position
      obtain ⟨closed, found, light, limited⟩ := ih (tree.negated mark.span.position)
      simp only [loads, load]
      refine ⟨closed, found, by omega, ?_⟩
      intro most within
      rw [closeConjunction, DepthLimit.check_of_load_le (by omega)]
      exact limited most (by omega)
    | .join .and left mark =>
      have lighter := Tree.load_joined_le .and left tree
      simp only [loads, load]
      refine ⟨_, rfl, by dsimp only; omega, ?_⟩
      intro most within
      rw [closeConjunction, DepthLimit.check_of_load_le (by omega)]
      rfl

theorem exists_closeDisjunction (stack : List Frame) (tree : Tree) :
    ∃ closed, closeDisjunction none stack tree = .ok closed ∧
      loads closed.1 + closed.2.load ≤ loads stack + tree.load ∧
      ∀ most, loads stack + tree.load ≤ most → closeDisjunction (some most) stack tree = .ok closed := by
  match stack with
  | [] | .group _ :: _ | .negation _ :: _ | .join .and _ _ :: _ =>
    exact ⟨_, rfl, Nat.le_refl _, fun _ _ => rfl⟩
  | .join .or left mark :: stack =>
    have lighter := Tree.load_joined_le .or left tree
    simp only [loads, load]
    refine ⟨_, rfl, by dsimp only; omega, ?_⟩
    intro most within
    rw [closeDisjunction, DepthLimit.check_of_load_le (by omega)]
    rfl

end Frame

/-- A stage weighs what there is of the operand being read. -/
def Stage.load : Stage → Nat
  | operand => 0
  | afterOperand tree => tree.load
  | _ => 1

/-- What is taken without a limit weighs no more than `most`, and a limit of as much makes the same
move. -/
structure Move.Light (most : Nat) (move : DepthLimit → Move) : Prop where
  light : ∀ stack stage, move none = .take stack stage → Frame.loads stack + stage.load ≤ most
  limited : ∀ limit, most ≤ limit → move (some limit) = move none

namespace Move.Light

variable {most : Nat} {move : DepthLimit → Move}

theorem take {stack : List Frame} {stage : Stage} (light : Frame.loads stack + stage.load ≤ most) :
    Light most fun _ => .take stack stage :=
  ⟨fun _ _ same => by cases same; exact light, fun _ _ => rfl⟩

theorem refuse (diagnostic : Diagnostic) : Light most fun _ => .refuse diagnostic :=
  ⟨nofun, fun _ _ => rfl⟩

theorem refuseAfter (diagnostic : Diagnostic) : Light most fun _ => .refuseAfter diagnostic :=
  ⟨nofun, fun _ _ => rfl⟩

theorem mono {less : Nat} (light : Light less move) (within : less ≤ most) : Light most move :=
  ⟨fun stack stage taken => Nat.le_trans (light.light stack stage taken) within,
    fun limit enough => light.limited limit (Nat.le_trans within enough)⟩

/-- A step behind what closes without a limit, and with one of as much as is closed. -/
theorem ofExcept {α : Type} {result : DepthLimit → Except Diagnostic α} {next : DepthLimit → α → Move}
    {a : α} {less : Nat} (found : result none = .ok a)
    (same : ∀ limit, less ≤ limit → result (some limit) = .ok a) (within : less ≤ most)
    (light : Light most fun limit => next limit a) :
    Light most fun limit => .ofExcept (result limit) (next limit) := by
  constructor
  · intro stack stage taken
    rw [found] at taken
    exact light.light stack stage taken
  · intro limit enough
    rw [found, same limit (Nat.le_trans within enough)]
    exact light.limited limit enough

end Move.Light

namespace Parser

variable (stack : List Frame) (token : Token)

theorem light_openLevel (frame : Frame) (one : frame.load = 1) :
    Move.Light (Frame.loads stack + 1) fun limit => openLevel limit stack frame token := by
  constructor
  · intro stack' stage taken
    cases taken
    simp only [Frame.loads, Stage.load]
    omega
  · intro limit enough
    have nested := Frame.nesting_le_loads stack
    have allowed : DepthLimit.allows (some limit) (Frame.nesting stack + 1) = true :=
      decide_eq_true (by omega)
    exact if_pos allowed

theorem light_startOperand :
    Move.Light (Frame.loads stack + 1) fun limit => startOperand limit stack token := by
  unfold startOperand
  split
  case h_1 => exact light_openLevel stack token (.negation token) rfl
  case h_2 => exact light_openLevel stack token (.group token) rfl
  all_goals first
    | exact .refuse _
    | exact .take (Nat.le_refl _)

theorem light_endGroup (tree : Tree) :
    Move.Light (Frame.loads stack + tree.load) fun _ => endGroup stack tree token := by
  unfold endGroup
  split
  · next opening stack =>
    split
    · refine .take ?_
      rw [Frame.loads, Stage.load, Tree.load_withSpan]
      omega
    · exact .refuse _
  · exact ⟨nofun, fun _ _ => rfl⟩

theorem light_continueOperand (tree : Tree) :
    Move.Light (Frame.loads stack + tree.load + 1) fun limit =>
      continueOperand limit stack tree token := by
  obtain ⟨⟨stack', tree'⟩, found, light, limited⟩ := Frame.exists_closeConjunction stack tree
  obtain ⟨⟨stack'', tree''⟩, found', light', limited'⟩ := Frame.exists_closeDisjunction stack' tree'
  dsimp only at light light'
  refine .ofExcept found limited (Nat.le_succ _) ?_
  dsimp only
  split
  · refine .take ?_
    rw [Frame.loads, Frame.load, Stage.load]
    omega
  · refine .ofExcept found' limited' (by omega) (.take ?_)
    rw [Frame.loads, Frame.load, Stage.load]
    dsimp only
    omega
  · exact .ofExcept found' limited' (by omega) ((light_endGroup stack'' token tree'').mono (by omega))
  · exact .ofExcept found' limited' (by omega) ((light_endGroup stack'' token tree'').mono (by omega))
  · refine (light_startOperand (.join .and tree' token :: stack') token).mono ?_
    rw [Frame.loads, Frame.load]
    omega

theorem light_expectLiteral {most : Nat} (field : FieldName) {next : Literal → Move}
    (light : ∀ value, Move.Light most fun _ => next value) :
    Move.Light most fun _ => expectLiteral field token next := by
  unfold expectLiteral
  split
  all_goals first
    | exact light _
    | exact .refuse _

/-- One more token weighs at most one. -/
theorem light_step (stage : Stage) :
    Move.Light (Frame.loads stack + stage.load + 1) fun limit => step limit stack stage token := by
  have one {stage' : Stage} (single : stage'.load = 1) :
      Move.Light (Frame.loads stack + 1 + 1) fun _ => .take stack stage' :=
    .take (by rw [single]; omega)
  cases stage with
  | operand => exact light_startOperand stack token
  | afterOperand tree => exact light_continueOperand stack token tree
  | colon field =>
    simp only [step]
    split
    · exact one rfl
    · exact .refuseAfter _
  | clause field =>
    simp only [step]
    split
    · exact one rfl
    · exact .refuse _
    · exact one rfl
    · exact light_expectLiteral token field fun _ => one rfl
  | bound field comparison => exact light_expectLiteral token field fun _ => one rfl
  | afterValue field value =>
    simp only [step]
    split
    · exact one rfl
    · exact light_continueOperand stack token
        (.leaf (Span.upTo field.span.position value.span.stop) (.equals field value))
  | upperBound field lower => exact light_expectLiteral token field fun _ => one rfl
  | listOpening field =>
    simp only [step]
    split
    · exact one rfl
    · exact .refuseAfter _
  | listValue field opening values =>
    simp only [step]
    split
    · exact .refuse _
    · exact light_expectLiteral token field fun _ => one rfl
  | listSeparator field opening values =>
    simp only [step]
    split
    · exact one rfl
    · exact one rfl
    · exact .refuseAfter _

theorem run_of_loads_le {stack : List Frame} {stage : Stage} {tokens : List Token} {most : Nat}
    (enough : Frame.loads stack + stage.load + tokens.length ≤ most) :
    run (some most) stack stage tokens = run none stack stage tokens := by
  -- what is taken and what is still to come together never weigh more than `most`
  induction tokens generalizing stack stage with
  | nil => rfl
  | cons token later ih =>
    rw [List.length_cons] at enough
    obtain ⟨light, limited⟩ := light_step stack token stage
    rw [run, run, limited most (by omega)]
    cases moved : step none stack stage token with
    | take stack' stage' =>
      have here := light stack' stage' moved
      exact ih (by omega)
    | finish tree | refuse diagnostic | refuseAfter diagnostic => rfl

end Parser

/-- A limit of as many levels as there are tokens is no limit. -/
theorem Tree.ofTokens_of_length_le {tokens : List Token} {most : Nat} (enough : tokens.length ≤ most) :
    Tree.ofTokens (some most) tokens = Tree.ofTokens none tokens := by
  by_cases ended : (tokens.headD (Token.atEnd 0)).kind = .endOfInput
  · rw [Parser.ofTokens_of_ended ended, Parser.ofTokens_of_ended ended]
  · have same := @Parser.run_of_loads_le [] .operand tokens most (by simpa [Frame.loads, Stage.load])
    rw [Parser.ofTokens_of_run ended rfl, Parser.ofTokens_of_run ended rfl, same]
    rfl

end SearchBox
