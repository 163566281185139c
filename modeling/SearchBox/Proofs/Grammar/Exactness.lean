import SearchBox.Proofs.Grammar.Parts
import SearchBox.Proofs.Grammar.Refusals
import SearchBox.Proofs.Grammar.Unambiguity

/-! What a limit on the depth changes: nothing but that a query may be refused as too deep. It is
refused exactly if a token stands under too many groups and negations or the tree is too high. -/

namespace SearchBox

namespace Grammar

/-! The tokens of a derivation, each with the number of groups and negations around it, if there are
`level` around the whole. -/

mutual

def Disjunction.levels (level : Nat) : Disjunction → List (Token × Nat)
  | .mk first others => first.levels level ++ others.levels level

def Disjuncts.levels (level : Nat) : Disjuncts → List (Token × Nat)
  | .none => []
  | .more mark next others => (mark.val, level) :: (next.levels level ++ others.levels level)

def Conjunction.levels (level : Nat) : Conjunction → List (Token × Nat)
  | .mk first others => first.levels level ++ others.levels level

def Conjuncts.levels (level : Nat) : Conjuncts → List (Token × Nat)
  | .none => []
  | .more mark next others =>
    (mark.map fun mark => (mark.val, level)).toList ++ (next.levels level ++ others.levels level)

def Unary.levels (level : Nat) : Unary → List (Token × Nat)
  | .negation mark inner => (mark.val, level) :: inner.levels (level + 1)
  | .group opening inner closing =>
    (opening.val, level) :: (inner.levels (level + 1) ++ [(closing.val, level)])
  | .leaf leaf => leaf.tokens.map fun token => (token, level)

end

mutual

theorem Disjunction.map_levels (level : Nat) (part : Disjunction) :
    (part.levels level).map Prod.fst = part.tokens := by
  match part with
  | .mk first others =>
    rw [Disjunction.levels, List.map_append, first.map_levels, others.map_levels, Disjunction.tokens]

theorem Disjuncts.map_levels (level : Nat) (part : Disjuncts) :
    (part.levels level).map Prod.fst = part.tokens := by
  match part with
  | .none => rfl
  | .more mark next others =>
    rw [Disjuncts.levels, List.map_cons, List.map_append, next.map_levels, others.map_levels,
      Disjuncts.tokens]

theorem Conjunction.map_levels (level : Nat) (part : Conjunction) :
    (part.levels level).map Prod.fst = part.tokens := by
  match part with
  | .mk first others =>
    rw [Conjunction.levels, List.map_append, first.map_levels, others.map_levels, Conjunction.tokens]

theorem Conjuncts.map_levels (level : Nat) (part : Conjuncts) :
    (part.levels level).map Prod.fst = part.tokens := by
  match part with
  | .none => rfl
  | .more mark next others =>
    rw [Conjuncts.levels, List.map_append, List.map_append, next.map_levels, others.map_levels,
      Conjuncts.tokens]
    cases mark <;> rfl

theorem Unary.map_levels (level : Nat) (part : Unary) :
    (part.levels level).map Prod.fst = part.tokens := by
  match part with
  | .negation mark inner => rw [Unary.levels, List.map_cons, inner.map_levels, Unary.tokens]
  | .group opening inner closing =>
    rw [Unary.levels, List.map_cons, List.map_append, inner.map_levels, Unary.tokens]
    rfl
  | .leaf leaf => simp [Unary.levels, Unary.tokens, Function.comp_def]

end

theorem Leaf.forall_tokens (leaf : Leaf) (holds : Prop) :
    (∀ token ∈ leaf.tokens, holds) ↔ holds := by
  obtain ⟨token, later, same, _⟩ := leaf.ahead []
  rw [List.append_nil] at same
  rw [same]
  exact ⟨fun all => all token List.mem_cons_self, fun here _ _ => here⟩

/-! The nesting of a part is what its tokens stand under at most. A part that may be empty says
nothing of the level it stands at. -/

mutual

theorem Disjunction.levels_le {level most : Nat} (part : Disjunction) :
    (∀ entry ∈ part.levels level, entry.2 ≤ most) ↔ level + part.nesting ≤ most := by
  match part with
  | .mk first others =>
    rw [Disjunction.levels, List.forall_mem_append, first.levels_le, Disjunction.nesting]
    by_cases within : level ≤ most
    · rw [others.levels_le within]
      omega
    · omega

theorem Disjuncts.levels_le {level most : Nat} (part : Disjuncts) (within : level ≤ most) :
    (∀ entry ∈ part.levels level, entry.2 ≤ most) ↔ level + part.nesting ≤ most := by
  match part with
  | .none => simpa [Disjuncts.levels, Disjuncts.nesting] using within
  | .more mark next others =>
    rw [Disjuncts.levels, List.forall_mem_cons, List.forall_mem_append, next.levels_le,
      others.levels_le within, Disjuncts.nesting]
    dsimp only
    omega

theorem Conjunction.levels_le {level most : Nat} (part : Conjunction) :
    (∀ entry ∈ part.levels level, entry.2 ≤ most) ↔ level + part.nesting ≤ most := by
  match part with
  | .mk first others =>
    rw [Conjunction.levels, List.forall_mem_append, first.levels_le, Conjunction.nesting]
    by_cases within : level ≤ most
    · rw [others.levels_le within]
      omega
    · omega

theorem Conjuncts.levels_le {level most : Nat} (part : Conjuncts) (within : level ≤ most) :
    (∀ entry ∈ part.levels level, entry.2 ≤ most) ↔ level + part.nesting ≤ most := by
  match part with
  | .none => simpa [Conjuncts.levels, Conjuncts.nesting] using within
  | .more mark next others =>
    have marked : ∀ entry ∈ (mark.map fun mark => (mark.val, level)).toList, entry.2 ≤ most := by
      cases mark with
      | none => exact List.forall_mem_nil _
      | some mark => exact List.forall_mem_singleton.2 within
    rw [Conjuncts.levels, List.forall_mem_append, and_iff_right marked, List.forall_mem_append,
      next.levels_le, others.levels_le within, Conjuncts.nesting]
    omega

theorem Unary.levels_le {level most : Nat} (part : Unary) :
    (∀ entry ∈ part.levels level, entry.2 ≤ most) ↔ level + part.nesting ≤ most := by
  match part with
  | .negation mark inner =>
    rw [Unary.levels, List.forall_mem_cons, inner.levels_le, Unary.nesting]
    dsimp only
    omega
  | .group opening inner closing =>
    rw [Unary.levels, List.forall_mem_cons, List.forall_mem_append, inner.levels_le,
      List.forall_mem_singleton, Unary.nesting]
    dsimp only
    omega
  | .leaf leaf =>
    rw [Unary.levels, List.forall_mem_map]
    exact leaf.forall_tokens (level ≤ most)

end

end Grammar

/-! What is read within a limit is nested no deeper. The induction is that by which a derivation is
read: the part in front was allowed by the limit, and that tells where the next one begins. -/

theorem DepthLimit.allows_max {limit : DepthLimit} {base small large : Nat}
    (one : limit.allows (base + small) = true) (other : limit.allows (base + large) = true) :
    limit.allows (base + max small large) = true := by
  cases limit with
  | none => rfl
  | some most =>
    simp only [DepthLimit.allows, decide_eq_true_eq] at one other ⊢
    omega

namespace Parser

variable {limit : DepthLimit}

/-- The parser comes to a tree. -/
def Succeeds (limit : DepthLimit) (stack : List Frame) (stage : Stage) (tokens : List Token) : Prop :=
  ∃ tree rest, run limit stack stage tokens = (.ok tree, rest)

/-- A level is opened only where the limit allows it. -/
theorem opened_of_succeeds {stack : List Frame} {frame : Frame} {token : Token} {later : List Token}
    (opens : startOperand limit stack token = openLevel limit stack frame token)
    (found : Succeeds limit stack .operand (token :: later)) :
    limit.allows (Frame.nesting stack + 1) = true ∧ Succeeds limit (frame :: stack) .operand later := by
  by_cases within : limit.allows (Frame.nesting stack + 1) = true
  · rw [Succeeds, run_opened opens within] at found
    exact ⟨within, found⟩
  · obtain ⟨tree, rest, found⟩ := found
    rw [run, step, opens, openLevel, if_neg within] at found
    cases congrArg Prod.fst found

mutual

theorem nested_disjunction (part : Grammar.Disjunction) (stack : List Frame) {rest : List Token}
    (opens : Frame.OpensDisjunction stack)
    (ends : Grammar.Ahead (Grammar.endsConjunction · = true) rest)
    (level : limit.allows (Frame.nesting stack) = true) (admitted : limit.admits part.tree = true)
    (found : Succeeds limit stack .operand (part.tokens ++ rest)) :
    limit.allows (Frame.nesting stack + part.nesting) = true := by
  match part with
  | .mk first others =>
    have low := admits_of_disjuncts others admitted
    rw [Grammar.Disjunction.tokens, List.append_assoc] at found
    have nested :=
      nested_conjunction first stack opens.opensConjunction (others.ahead ends) level low found
    rw [Succeeds, run_conjunction first stack opens.opensConjunction (others.ahead ends) nested
      low] at found
    exact DepthLimit.allows_max nested
      (nested_disjuncts others first.tree stack opens ends level admitted found)

theorem nested_disjuncts (others : Grammar.Disjuncts) (left : Tree) (stack : List Frame)
    {rest : List Token} (opens : Frame.OpensDisjunction stack)
    (ends : Grammar.Ahead (Grammar.endsConjunction · = true) rest)
    (level : limit.allows (Frame.nesting stack) = true)
    (admitted : limit.admits (others.joinedTo left) = true)
    (found : Succeeds limit stack (.afterOperand left) (others.tokens ++ rest)) :
    limit.allows (Frame.nesting stack + others.nesting) = true := by
  match others with
  | .none => exact level
  | .more mark next others =>
    have joined : limit.admits (.joined .or left next.tree) = true :=
      admits_of_disjuncts others admitted
    have right := DepthLimit.admits_right joined
    have opens' : Frame.OpensConjunction (.join .or left mark.val :: stack) := trivial
    rw [Grammar.Disjuncts.tokens, List.cons_append, Succeeds,
      run_of_take _ (step_or left mark opens), List.append_assoc] at found
    have nested := nested_conjunction next (.join .or left mark.val :: stack) opens'
      (others.ahead ends) level right found
    rw [run_conjunction next _ opens' (others.ahead ends) nested right,
      run_afterOperand_disjunct mark.val opens (others.ahead ends) joined] at found
    exact DepthLimit.allows_max nested
      (nested_disjuncts others _ stack opens ends level admitted found)

theorem nested_conjunction (part : Grammar.Conjunction) (stack : List Frame) {rest : List Token}
    (opens : Frame.OpensConjunction stack)
    (ends : Grammar.Ahead (Grammar.endsConjunction · = true) rest)
    (level : limit.allows (Frame.nesting stack) = true) (admitted : limit.admits part.tree = true)
    (found : Succeeds limit stack .operand (part.tokens ++ rest)) :
    limit.allows (Frame.nesting stack + part.nesting) = true := by
  match part with
  | .mk first others =>
    have closed := Grammar.NoDots.of_endsConjunction ends
    have low := admits_of_conjuncts others admitted
    rw [Grammar.Conjunction.tokens, List.append_assoc] at found
    have nested := nested_unary first stack (others.noDots closed) level low found
    rw [Succeeds, run_unary first stack (others.noDots closed) nested low] at found
    exact DepthLimit.allows_max nested
      (nested_conjuncts others first.tree stack opens closed level admitted found)

theorem nested_conjuncts (others : Grammar.Conjuncts) (left : Tree) (stack : List Frame)
    {rest : List Token} (opens : Frame.OpensConjunction stack) (closed : Grammar.NoDots rest)
    (level : limit.allows (Frame.nesting stack) = true)
    (admitted : limit.admits (others.joinedTo left) = true)
    (found : Succeeds limit stack (.afterOperand left) (others.tokens ++ rest)) :
    limit.allows (Frame.nesting stack + others.nesting) = true := by
  match others with
  | .none => exact level
  | .more mark next others =>
    have joined : limit.admits (.joined .and left next.tree) = true :=
      admits_of_conjuncts others admitted
    have right := DepthLimit.admits_right joined
    obtain ⟨token, marked⟩ := exists_run_conjunct left mark next (others.tokens ++ rest) opens
    rw [Grammar.Conjuncts.tokens, List.append_assoc, List.append_assoc, Succeeds, marked] at found
    have nested := nested_unary next (.join .and left token :: stack) (others.noDots closed) level
      right found
    rw [run_unary next _ (others.noDots closed) nested right,
      run_afterOperand_conjunct token opens (others.noDots closed) joined] at found
    exact DepthLimit.allows_max nested
      (nested_conjuncts others _ stack opens closed level admitted found)

theorem nested_unary (part : Grammar.Unary) (stack : List Frame) {rest : List Token}
    (closed : Grammar.NoDots rest)
    (level : limit.allows (Frame.nesting stack) = true) (admitted : limit.admits part.tree = true)
    (found : Succeeds limit stack .operand (part.tokens ++ rest)) :
    limit.allows (Frame.nesting stack + part.nesting) = true := by
  match part with
  | .leaf leaf => exact level
  | .negation mark inner =>
    obtain ⟨within, found⟩ := opened_of_succeeds (startOperand_not stack mark) found
    have nested := nested_unary inner (.negation mark.val :: stack) closed within
      (DepthLimit.admits_inner admitted) found
    rw [Grammar.Unary.nesting, ← Nat.add_assoc]
    exact nested
  | .group opening inner closing =>
    rw [Grammar.Unary.tree, DepthLimit.admits_withSpan] at admitted
    have ends : Grammar.Ahead (Grammar.endsConjunction · = true) (closing.val :: rest) :=
      ⟨closing.val, rest, rfl, by rw [closing.property]; rfl⟩
    rw [Grammar.Unary.tokens, List.cons_append, List.append_assoc] at found
    obtain ⟨within, found⟩ := opened_of_succeeds (startOperand_opening stack opening) found
    have nested := nested_disjunction inner (.group opening.val :: stack) trivial ends within
      admitted found
    rw [Grammar.Unary.nesting, ← Nat.add_assoc]
    exact nested

end

end Parser

/-! A limit changes nothing but that a query may be refused as too deep. -/

/-- The result is the one that there is without a limit, or it is too deep. -/
def Cut {α : Type} (exact limited : Except Diagnostic α) : Prop :=
  limited = exact ∨ ∃ diagnostic, limited = .error diagnostic ∧ diagnostic.code = .nestingTooDeep

theorem Cut.bind {α β : Type} {exact limited : Except Diagnostic α}
    {next next' : α → Except Diagnostic β} (cut : Cut exact limited)
    (each : ∀ a, Cut (next a) (next' a)) : Cut (exact >>= next) (limited >>= next') := by
  rcases cut with rfl | ⟨diagnostic, rfl, deep⟩
  · cases limited with
    | error diagnostic => exact .inl rfl
    | ok a => exact each a
  · exact .inr ⟨diagnostic, rfl, deep⟩

/-- The move is the one that is made without a limit, or it gives the query up as too deep. -/
def Move.Cut (exact limited : Move) : Prop :=
  limited = exact ∨
    ∃ diagnostic, limited.diagnostic? = some diagnostic ∧ diagnostic.code = .nestingTooDeep

theorem Move.Cut.refl (move : Move) : move.Cut move :=
  .inl rfl

theorem Move.Cut.ofExcept {α : Type} {exact limited : Except Diagnostic α} {next next' : α → Move}
    (cut : SearchBox.Cut exact limited) (each : ∀ a, (next a).Cut (next' a)) :
    (Move.ofExcept exact next).Cut (Move.ofExcept limited next') := by
  rcases cut with rfl | ⟨diagnostic, rfl, deep⟩
  · cases limited with
    | error diagnostic => exact .inl rfl
    | ok a => exact each a
  · exact .inr ⟨diagnostic, rfl, deep⟩

variable {limit : DepthLimit} {stack : List Frame} {tree : Tree} {token : Token}

theorem DepthLimit.cut_check (limit : DepthLimit) (tree : Tree) (mark : Token) :
    Cut (check none tree mark) (limit.check tree mark) := by
  show Cut (.ok tree) (limit.check tree mark)
  unfold check
  split
  · exact .inl rfl
  · refine .inr ⟨_, rfl, ?_⟩
    cases tree <;> rfl

namespace Frame

theorem cut_closeConjunction (limit : DepthLimit) (stack : List Frame) (tree : Tree) :
    Cut (closeConjunction none stack tree) (closeConjunction limit stack tree) := by
  induction stack generalizing tree with
  | nil => exact .inl rfl
  | cons frame stack ih =>
    cases frame with
    | group opening => exact .inl rfl
    | negation mark => exact (limit.cut_check _ mark).bind ih
    | join connective left mark =>
      cases connective with
      | and => exact (limit.cut_check _ mark).bind fun _ => .inl rfl
      | or => exact .inl rfl

theorem cut_closeDisjunction (limit : DepthLimit) (stack : List Frame) (tree : Tree) :
    Cut (closeDisjunction none stack tree) (closeDisjunction limit stack tree) := by
  unfold closeDisjunction
  split
  · next left mark stack => exact (limit.cut_check _ mark).bind fun _ => .inl rfl
  · exact .inl rfl

end Frame

namespace Parser

theorem cut_openLevel (limit : DepthLimit) (stack : List Frame) (frame : Frame) (token : Token) :
    (openLevel none stack frame token).Cut (openLevel limit stack frame token) := by
  unfold openLevel
  split
  · split
    · exact .inl rfl
    · exact .inr ⟨_, rfl, rfl⟩
  · next never => exact (never rfl).elim

theorem cut_startOperand (limit : DepthLimit) (stack : List Frame) (token : Token) :
    (startOperand none stack token).Cut (startOperand limit stack token) := by
  unfold startOperand
  split
  · exact cut_openLevel limit stack _ token
  · exact cut_openLevel limit stack _ token
  all_goals exact .refl _

theorem cut_continueOperand (limit : DepthLimit) (stack : List Frame) (tree : Tree) (token : Token) :
    (continueOperand none stack tree token).Cut (continueOperand limit stack tree token) := by
  apply Move.Cut.ofExcept (Frame.cut_closeConjunction limit stack tree)
  rintro ⟨inner, made⟩
  dsimp only
  split
  · exact .refl _
  · exact .ofExcept (Frame.cut_closeDisjunction limit inner made) fun _ => .refl _
  · exact .ofExcept (Frame.cut_closeDisjunction limit inner made) fun _ => .refl _
  · exact .ofExcept (Frame.cut_closeDisjunction limit inner made) fun _ => .refl _
  · exact cut_startOperand limit _ token

theorem cut_step (limit : DepthLimit) (stack : List Frame) (stage : Stage) (token : Token) :
    (step none stack stage token).Cut (step limit stack stage token) := by
  cases stage with
  | operand => exact cut_startOperand limit stack token
  | afterOperand tree => exact cut_continueOperand limit stack tree token
  | afterValue field value =>
    simp only [step]
    split
    · exact .refl _
    · exact cut_continueOperand limit stack _ token
  | colon | clause | bound | upperBound | listOpening | listValue | listSeparator => exact .refl _

theorem cut_run (limit : DepthLimit) (stack : List Frame) (stage : Stage) (tokens : List Token) :
    run limit stack stage tokens = run none stack stage tokens ∨ ∃ diagnostic,
      (run limit stack stage tokens).1 = .error diagnostic ∧ diagnostic.code = .nestingTooDeep := by
  induction tokens generalizing stack stage with
  | nil => exact .inl rfl
  | cons token later ih =>
    rcases cut_step limit stack stage token with same | ⟨diagnostic, given, deep⟩
    · rw [run, run, same]
      split
      · exact ih _ _
      all_goals exact .inl rfl
    · right
      refine ⟨diagnostic, ?_, deep⟩
      rw [run]
      cases moved : step limit stack stage token with
      | take | finish => simp [moved, Move.diagnostic?] at given
      | refuse | refuseAfter =>
        rw [moved] at given
        cases given
        rfl

end Parser

theorem Grammar.cut_ofTokens (limit : DepthLimit) (tokens : List Token) :
    Cut (Tree.ofTokens none tokens) (Tree.ofTokens limit tokens) := by
  unfold Tree.ofTokens Parser.parse Parser.expectEnd Parser.ahead
  dsimp only
  split
  · exact .inl rfl
  · rcases Parser.cut_run limit [] .operand tokens with same | ⟨diagnostic, given, deep⟩
    · rw [same]
      exact .inl rfl
    · rw [given]
      exact .inr ⟨diagnostic, rfl, deep⟩

/-! The height of trees. -/

/-- The number of nodes on the longest way from the root to a leaf. -/
def Tree.height : Tree → Nat
  | leaf _ _ => 1
  | join _ _ _ left right => 1 + max left.height right.height
  | negation _ _ inner => 1 + inner.height

theorem Tree.height_eq (tree : Tree) : tree.height = tree.formula.depth := by
  induction tree with
  | leaf span clause => rfl
  | join connective span depth left right leftIh rightIh =>
    rw [height, leftIh, rightIh, formula, Formula.depth]
  | negation span depth inner ih => rw [height, ih, formula, Formula.depth]

theorem Tree.depth_expression (schema : Schema) (tree : Tree) :
    (tree.expression schema).depth = tree.formula.depth :=
  tree.formula.depth_map _

namespace Grammar

/-- The derivation is not too deep: no token is under more groups and negations than this, and the tree
is a leaf or no deeper. -/
def Disjunction.Fits (derivation : Disjunction) (most : Nat) : Prop :=
  (∀ entry ∈ derivation.levels 0, entry.2 ≤ most) ∧
    ((∃ span clause, derivation.tree = .leaf span clause) ∨ derivation.tree.depth ≤ most)

theorem Disjunction.fits_iff {derivation : Disjunction} {most : Nat} : derivation.Fits most ↔
    DepthLimit.allows (some most) derivation.nesting = true ∧
      DepthLimit.admits (some most) derivation.tree = true := by
  rw [Fits, derivation.levels_le, Nat.zero_add, DepthLimit.allows, decide_eq_true_eq]
  apply and_congr_right'
  cases derivation.tree with
  | leaf span clause => exact iff_of_true (.inl ⟨span, clause, rfl⟩) rfl
  | join | negation => simp [DepthLimit.admits, DepthLimit.allows]

theorem Disjunction.eq_of_tokens {first second : Disjunction} {ending : Token}
    (ends : ending.kind = .endOfInput) (same : first.tokens = second.tokens) : first = second := by
  have ahead : Ahead (endsExpression · = true) [ending] := ⟨ending, [], rfl, by rw [ends]; rfl⟩
  exact (first.unique second ahead ahead (by rw [same])).1

/-- What is found within a limit fits it. -/
theorem Disjunction.fits_of_ofTokens {derivation : Disjunction} {ending : Token} {tree : Tree}
    {most : Nat} (ends : ending.kind = .endOfInput)
    (inside : ∀ token ∈ derivation.tokens, token.kind ≠ .endOfInput)
    (found : Tree.ofTokens (some most) (derivation.tokens ++ [ending]) = .ok (some tree)) :
    derivation.Fits most := by
  have admitted := admits_of_ofTokens found
  obtain ⟨part, same, rfl⟩ := derived_of_ofTokens inside found
  obtain rfl := Disjunction.eq_of_tokens ends same
  have ahead : Ahead (endsExpression · = true) [ending] := ⟨ending, [], rfl, by rw [ends]; rfl⟩
  obtain ⟨rest, run, _⟩ := run_of_ofTokens found
  have nested := Parser.nested_disjunction part [] trivial (endsConjunction_of_endsExpression ahead) rfl
    admitted ⟨_, _, run⟩
  rw [Frame.nesting, Nat.zero_add] at nested
  exact fits_iff.2 ⟨nested, admitted⟩

/-- Every node is the tree of a part, for which the depth is counted. -/
theorem depths_of_ofTokens {limit : DepthLimit} {body : List Token} {ending : Token} {tree : Tree}
    (inside : ∀ token ∈ body, token.kind ≠ .endOfInput)
    (found : Tree.ofTokens limit (body ++ [ending]) = .ok (some tree)) :
    ∀ node ∈ tree.subtrees, node.depth = node.height ∧
      ∀ schema, (node.expression schema).depth = node.depth := by
  obtain ⟨derivation, rfl, rfl⟩ := derived_of_ofTokens inside found
  intro node member
  obtain ⟨_, part, _, _, rfl, _⟩ := derivation.parted node member
  rw [Tree.height_eq, ← part.depth_tree]
  refine ⟨rfl, fun schema => ?_⟩
  rw [Tree.depth_expression, part.depth_tree]

/-- A limit on the depth is exact and changes nothing else. What fails without a limit fails with one.
What is read without a limit is read the same with one, if its one derivation fits, and else it is
refused as too deep. The depth that is kept in a node is its height, and that of the expression it
stands for; so what is accepted is no deeper than the limit, except that a single clause always is
accepted. -/
theorem ofTokens_limited (body : List Token) (ending : Token)
    (inside : ∀ token ∈ body, token.kind ≠ .endOfInput) (ends : ending.kind = .endOfInput)
    (most : Nat) :
    (∀ diagnostic, Tree.ofTokens none (body ++ [ending]) = .error diagnostic →
      ∃ refusal, Tree.ofTokens (some most) (body ++ [ending]) = .error refusal) ∧
    (Tree.ofTokens none (body ++ [ending]) = .ok none →
      Tree.ofTokens (some most) (body ++ [ending]) = .ok none) ∧
    (∀ tree, Tree.ofTokens none (body ++ [ending]) = .ok (some tree) →
      ∃ derivation : Disjunction, derivation.tokens = body ∧
        (∀ other : Disjunction, other.tokens = body → other = derivation) ∧
        (derivation.levels 0).map Prod.fst = body ∧ derivation.tree = tree ∧
        (Tree.ofTokens (some most) (body ++ [ending]) = .ok (some tree) ↔ derivation.Fits most) ∧
        (¬derivation.Fits most → ∃ refusal,
          Tree.ofTokens (some most) (body ++ [ending]) = .error refusal ∧
            refusal.code = .nestingTooDeep)) ∧
    (∀ limit tree, Tree.ofTokens limit (body ++ [ending]) = .ok (some tree) →
      ∀ node ∈ tree.subtrees, node.depth = node.height ∧
        ∀ schema, (node.expression schema).depth = node.depth) ∧
    ∀ tree, Tree.ofTokens (some most) (body ++ [ending]) = .ok (some tree) →
      ∀ schema, (tree.expression schema).depth ≤ max 1 most := by
  have cut := cut_ofTokens (some most) (body ++ [ending])
  refine ⟨?_, ?_, ?_, fun limit tree found => depths_of_ofTokens inside found, ?_⟩
  · intro diagnostic failed
    rcases cut with same | ⟨refusal, refused, _⟩
    · exact ⟨diagnostic, same.trans failed⟩
    · exact ⟨refusal, refused⟩
  · intro nothing
    cases body with
    | nil => exact Parser.ofTokens_of_ended ends
    | cons token body => exact (ofTokens_cons_ne_none (inside token (by simp)) nothing).elim
  · intro tree found
    obtain ⟨derivation, rfl, rfl⟩ := derived_of_ofTokens inside found
    refine ⟨derivation, rfl, fun _ => Disjunction.eq_of_tokens ends, derivation.map_levels 0, rfl,
      ⟨Disjunction.fits_of_ofTokens ends inside, ?_⟩, ?_⟩
    · intro fits
      obtain ⟨nested, admitted⟩ := Disjunction.fits_iff.1 fits
      exact ofTokens_derived derivation ends nested admitted
    · intro deep
      rcases cut with same | refused
      · exact (deep (Disjunction.fits_of_ofTokens ends inside (same.trans found))).elim
      · exact refused
  · intro tree found schema
    obtain ⟨derivation, rfl, rfl⟩ := derived_of_ofTokens inside found
    have within := (DepthLimit.admits_iff derivation.depth_tree).1 (admits_of_ofTokens found)
    rw [Tree.depth_expression, Nat.max_comm]
    exact within

/-- The row of `NOT (a b)`, which is three levels high with two of them around the words. -/
theorem ofTokens_limited_group :
    let body : List Token := [⟨.keyword .not, "NOT", ⟨0, 3⟩⟩, ⟨.leftParen, "(", ⟨4, 1⟩⟩,
      ⟨.word, "a", ⟨5, 1⟩⟩, ⟨.word, "b", ⟨7, 1⟩⟩, ⟨.rightParen, ")", ⟨8, 1⟩⟩]
    (∃ derivation : Disjunction, derivation.tokens = body ∧ derivation.Fits 3) ∧
      ∃ refusal, Tree.ofTokens (some 2) (body ++ [Token.atEnd 9]) = .error refusal ∧
        refusal.code = .nestingTooDeep := by
  intro body
  let tree : Tree := .negation ⟨0, 9⟩ 3
    (.join .and ⟨4, 5⟩ 2 (.leaf ⟨5, 1⟩ (.term "a")) (.leaf ⟨7, 1⟩ (.term "b")))
  have inside : ∀ token ∈ body, token.kind ≠ .endOfInput := by decide
  have found : Tree.ofTokens none (body ++ [Token.atEnd 9]) = .ok (some tree) := rfl
  obtain ⟨_, _, atThree, _⟩ := ofTokens_limited body (Token.atEnd 9) inside rfl 3
  obtain ⟨_, _, atTwo, _⟩ := ofTokens_limited body (Token.atEnd 9) inside rfl 2
  obtain ⟨derivation, row, _, _, _, accepted, _⟩ := atThree tree found
  obtain ⟨_, _, _, _, made, _, refused⟩ := atTwo tree found
  refine ⟨⟨derivation, row, accepted.1 rfl⟩, refused ?_⟩
  rintro ⟨_, ⟨span, clause, leaf⟩ | low⟩
  · have same : Tree.negation _ _ _ = Tree.leaf span clause := made.symm.trans leaf
    cases same
  · rw [made] at low
    exact absurd low (by decide)

end Grammar

end SearchBox
