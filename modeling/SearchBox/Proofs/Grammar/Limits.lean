import SearchBox.Proofs.Formula
import SearchBox.Proofs.Grammar.Extents

/-! The limit on the height of trees, kept. Every tree that the parser makes is checked as it is made,
so whatever is found within a limit is admitted by it. -/

namespace SearchBox

namespace DepthLimit

variable {limit : DepthLimit}

/-- Every tree of a row is admitted. -/
def AdmitsAll (limit : DepthLimit) (trees : List Tree) : Prop :=
  ∀ tree ∈ trees, limit.admits tree = true

theorem admits_of_check {tree found : Tree} {mark : Token}
    (checked : limit.check tree mark = .ok found) : limit.admits found = true := by
  unfold check at checked
  split at checked
  · next allowed =>
    cases checked
    exact admits_of_depth_le _ (Nat.le_refl _) allowed
  · cases checked

theorem AdmitsAll.nil : limit.AdmitsAll [] :=
  List.forall_mem_nil _

theorem AdmitsAll.cons {tree : Tree} {trees : List Tree} (first : limit.admits tree = true)
    (others : limit.AdmitsAll trees) : limit.AdmitsAll (tree :: trees) :=
  List.forall_mem_cons.2 ⟨first, others⟩

theorem AdmitsAll.head {tree : Tree} {trees : List Tree} (all : limit.AdmitsAll (tree :: trees)) :
    limit.admits tree = true :=
  all tree List.mem_cons_self

theorem AdmitsAll.tail {tree : Tree} {trees : List Tree} (all : limit.AdmitsAll (tree :: trees)) :
    limit.AdmitsAll trees :=
  fun tree member => all tree (List.mem_cons_of_mem _ member)

/-- The limit told on the formula: it does not hold for a single clause. -/
theorem admits_iff {most : Nat} {tree : Tree} (counted : tree.depth = tree.formula.depth) :
    admits (some most) tree = true ↔ tree.formula.depth ≤ max most 1 := by
  have inner (formula : Formula (Clause FieldName Literal)) := formula.depth_pos
  cases tree with
  | leaf span clause =>
    have single : 1 ≤ max most 1 := by omega
    exact iff_of_true rfl single
  | join connective span depth left right =>
    have low := inner left.formula
    have same : depth = 1 + max left.formula.depth right.formula.depth := counted
    show decide (depth ≤ most) = true ↔ 1 + max left.formula.depth right.formula.depth ≤ max most 1
    rw [decide_eq_true_eq]
    omega
  | negation span depth inside =>
    have low := inner inside.formula
    have same : depth = 1 + inside.formula.depth := counted
    show decide (depth ≤ most) = true ↔ 1 + inside.formula.depth ≤ max most 1
    rw [decide_eq_true_eq]
    omega

end DepthLimit

/-- The trees that the parser holds after a move. -/
def Move.held : Move → List Tree
  | take stack stage => stage.held ++ Frame.held stack
  | finish tree => [tree]
  | refuse _ | refuseAfter _ => []

variable {limit : DepthLimit} {stack : List Frame} {tree : Tree}

theorem Move.admitsAll_ofExcept {α : Type} {result : Except Diagnostic α} {next : α → Move}
    (each : ∀ value, result = .ok value → limit.AdmitsAll (next value).held) :
    limit.AdmitsAll (ofExcept result next).held := by
  cases result with
  | ok value => exact each value rfl
  | error diagnostic => exact .nil

namespace Frame

theorem admitsAll_closeConjunction {closed : List Frame × Tree}
    (all : limit.AdmitsAll (tree :: held stack))
    (found : closeConjunction limit stack tree = .ok closed) :
    limit.AdmitsAll (closed.2 :: held closed.1) := by
  fun_induction closeConjunction limit stack tree with
  | case1 mark stack tree ih =>
    cases checked : limit.check (tree.negated mark.span.position) mark with
    | error => simp [checked, bind, Except.bind] at found
    | ok made =>
      simp only [checked, bind, Except.bind] at found
      exact ih made (all.tail.cons (DepthLimit.admits_of_check checked)) found
  | case2 left mark stack tree =>
    cases checked : limit.check (.joined .and left tree) mark with
    | error => simp [checked, bind, Except.bind] at found
    | ok made =>
      simp only [checked, bind, Except.bind, pure, Except.pure] at found
      cases found
      exact all.tail.tail.cons (DepthLimit.admits_of_check checked)
  | case3 =>
    cases found
    exact all

theorem admitsAll_closeDisjunction {closed : List Frame × Tree}
    (all : limit.AdmitsAll (tree :: held stack))
    (found : closeDisjunction limit stack tree = .ok closed) :
    limit.AdmitsAll (closed.2 :: held closed.1) := by
  unfold closeDisjunction at found
  split at found
  · next left mark stack =>
    cases checked : limit.check (.joined .or left tree) mark with
    | error => simp [checked, bind, Except.bind] at found
    | ok made =>
      simp only [checked, bind, Except.bind, pure, Except.pure] at found
      cases found
      exact all.tail.tail.cons (DepthLimit.admits_of_check checked)
  · cases found
    exact all

end Frame

namespace Parser

theorem admitsAll_startOperand (all : limit.AdmitsAll (Frame.held stack)) (token : Token) :
    limit.AdmitsAll (startOperand limit stack token).held := by
  have leaf (clause : Clause FieldName Literal) : limit.AdmitsAll
      (Move.take stack (.afterOperand (.leaf token.span clause))).held :=
    all.cons rfl
  unfold startOperand openLevel
  split
  · split
    · exact all
    · exact .nil
  · split
    · exact all
    · exact .nil
  all_goals first
    | exact all
    | exact leaf _
    | exact .nil

theorem admitsAll_endGroup (all : limit.AdmitsAll (tree :: Frame.held stack)) (token : Token) :
    limit.AdmitsAll (endGroup stack tree token).held := by
  unfold endGroup
  split
  · split
    · exact all.tail.cons (by rw [DepthLimit.admits_withSpan]; exact all.head)
    · exact .nil
  · exact .cons all.head .nil

theorem admitsAll_continueOperand (all : limit.AdmitsAll (tree :: Frame.held stack))
    (token : Token) : limit.AdmitsAll (continueOperand limit stack tree token).held := by
  apply Move.admitsAll_ofExcept
  rintro ⟨inner, made⟩ closed
  have conjoined := Frame.admitsAll_closeConjunction all closed
  dsimp only
  split
  · exact conjoined
  · apply Move.admitsAll_ofExcept
    intro disjunction closed
    exact Frame.admitsAll_closeDisjunction conjoined closed
  · apply Move.admitsAll_ofExcept
    intro disjunction closed
    exact admitsAll_endGroup (Frame.admitsAll_closeDisjunction conjoined closed) token
  · apply Move.admitsAll_ofExcept
    intro disjunction closed
    exact admitsAll_endGroup (Frame.admitsAll_closeDisjunction conjoined closed) token
  · exact admitsAll_startOperand conjoined token

theorem admitsAll_expectLiteral {next : Literal → Move}
    (each : ∀ value, limit.AdmitsAll (next value).held) (field : FieldName) (token : Token) :
    limit.AdmitsAll (expectLiteral field token next).held := by
  unfold expectLiteral
  split
  all_goals first
    | exact each _
    | exact .nil

/-- A step holds no tree that is not admitted, if there was none before. -/
theorem admitsAll_step {stage : Stage} (all : limit.AdmitsAll (stage.held ++ Frame.held stack))
    (token : Token) : limit.AdmitsAll (step limit stack stage token).held := by
  have clause (field : FieldName) (stop : Nat) (inner : Clause FieldName Literal)
      (waiting : limit.AdmitsAll (Frame.held stack)) :
      limit.AdmitsAll (Move.take stack (completeClause field stop inner)).held :=
    waiting.cons rfl
  cases stage with
  | operand => exact admitsAll_startOperand all token
  | afterOperand tree => exact admitsAll_continueOperand all token
  | colon field =>
    simp only [step]
    split
    · exact all
    · exact .nil
  | clause field =>
    simp only [step]
    split
    · exact all
    · exact .nil
    · exact all
    · exact admitsAll_expectLiteral (fun _ => all) field token
  | bound field comparison =>
    exact admitsAll_expectLiteral (fun _ => clause _ _ _ all) field token
  | afterValue field value =>
    simp only [step]
    split
    · exact all
    · exact admitsAll_continueOperand (all.cons rfl) token
  | upperBound field lower =>
    exact admitsAll_expectLiteral (fun _ => clause _ _ _ all) field token
  | listOpening field =>
    simp only [step]
    split
    · exact all
    · exact .nil
  | listValue field opening values =>
    simp only [step]
    split
    · exact .nil
    · exact admitsAll_expectLiteral (fun _ => all) field token
  | listSeparator field opening values =>
    simp only [step]
    split
    · exact all
    · exact clause _ _ _ all
    · exact .nil

theorem admits_of_run {stage : Stage} {tokens rest : List Token}
    (all : limit.AdmitsAll (stage.held ++ Frame.held stack))
    (found : run limit stack stage tokens = (.ok tree, rest)) : limit.admits tree = true := by
  induction tokens generalizing stack stage with
  | nil => cases congrArg Prod.fst found
  | cons token later ih =>
    have after := admitsAll_step all token
    rw [run] at found
    split at found
    · next taken =>
      rw [taken] at after
      exact ih after found
    · next finished =>
      cases found
      rw [finished] at after
      exact after.head
    · cases congrArg Prod.fst found
    · cases congrArg Prod.fst found

end Parser

/-- The tree that is found for a text is a leaf or no higher than the limit. -/
theorem Grammar.admits_of_ofTokens {tokens : List Token}
    (found : Tree.ofTokens limit tokens = .ok (some tree)) : limit.admits tree = true := by
  obtain ⟨rest, run, _⟩ := run_of_ofTokens found
  have nothing : limit.AdmitsAll (Stage.operand.held ++ Frame.held []) :=
    List.forall_mem_nil _
  exact Parser.admits_of_run nothing run

end SearchBox
