import SearchBox.Proofs.Grammar.Spans

/-! What the parser measures. Each span that is made goes from the start of some token to the end of a
token that is the same or comes later, on every text and at every limit, also where the query is
refused in the end; so no difference of two positions is ever cut off at zero. -/

namespace SearchBox

namespace Frame

/-- The starts and ends of the trees that closing a conjunction makes. -/
def conjunctionExtents : List Frame → Tree → List (Nat × Nat)
  | negation mark :: stack, tree =>
    (mark.span.position, tree.span.stop) ::
      conjunctionExtents stack (tree.negated mark.span.position)
  | join .and left _ :: _, tree => [(left.span.position, tree.span.stop)]
  | _, _ => []

/-- The start and end of the tree that closing a disjunction makes, if it makes one. -/
def disjunctionExtents : List Frame → Tree → List (Nat × Nat)
  | join .or left _ :: _, tree => [(left.span.position, tree.span.stop)]
  | _, _ => []

/-- The start and end of the group that the token closes, if it closes one. -/
def groupExtents : List Frame → Token → List (Nat × Nat)
  | group opening :: _, token =>
    if token.kind = .rightParen then [(opening.span.position, token.span.stop)] else []
  | _, _ => []

end Frame

namespace Parser

/-- What is measured at the first token of an operand. -/
def operandExtents (token : Token) : List (Nat × Nat) :=
  if token.kind = .wildcard ∨ token.kind = .word ∨ token.kind.isLiteral then
    [(token.span.position, token.span.stop)]
  else []

/-- What is measured at a token behind an operand. -/
def continuationExtents (limit : DepthLimit) (stack : List Frame) (tree : Tree) (token : Token) :
    List (Nat × Nat) :=
  Frame.conjunctionExtents stack tree ++
    match Frame.closeConjunction limit stack tree with
    | .error _ => []
    | .ok (stack, tree) =>
      match token.kind with
      | .keyword .and => []
      | .keyword .or | .rightParen | .endOfInput =>
        Frame.disjunctionExtents stack tree ++
          match Frame.closeDisjunction limit stack tree with
          | .error _ => []
          | .ok (stack, _) => Frame.groupExtents stack token
      | _ => operandExtents token

/-- The start and end of every span that is measured at a token. -/
def extents (limit : DepthLimit) (stack : List Frame) (stage : Stage) (token : Token) :
    List (Nat × Nat) :=
  match stage with
  | .operand => operandExtents token
  | .afterOperand tree => continuationExtents limit stack tree token
  | .afterValue field value =>
    if token.kind = .range .span then []
    else
      (field.span.position, value.span.stop) ::
        continuationExtents limit stack
          (.leaf (Span.upTo field.span.position value.span.stop) (.equals field value)) token
  | .bound field _ | .upperBound field _ =>
    if token.kind.isLiteral then [(field.span.position, token.span.stop)] else []
  | .listValue _ opening values =>
    if token.kind = .rightParen ∧ values = [] then [(opening.span.position, token.span.stop)]
    else []
  | .listSeparator field _ _ =>
    if token.kind = .rightParen then [(field.span.position, token.span.stop)] else []
  | .colon _ | .clause _ | .listOpening _ => []

/-- Where the parser stands when it looks at a token. -/
structure Visit where
  stack : List Frame
  stage : Stage
  token : Token

/-- The tokens that are looked at from some stage on, up to the one where the reading stops. -/
def visits (limit : DepthLimit) (stack : List Frame) (stage : Stage) : List Token → List Visit
  | [] => []
  | token :: later =>
    ⟨stack, stage, token⟩ ::
      match step limit stack stage token with
      | .take stack stage => visits limit stack stage later
      | _ => []

end Parser

/-! The spans of all trees that a step makes are measured by it. -/

/-- The left operands that wait on the stack. -/
def Frame.held : List Frame → List Tree
  | [] => []
  | join _ left _ :: stack => left :: held stack
  | group _ :: stack | negation _ :: stack => held stack

def Stage.held : Stage → List Tree
  | afterOperand tree => [tree]
  | _ => []

/-- One of the extents is that of the span. -/
def Span.MeasuredBy (extents : List (Nat × Nat)) (span : Span) : Prop :=
  ∃ extent ∈ extents, span = upTo extent.1 extent.2

theorem Span.MeasuredBy.mono {extents more : List (Nat × Nat)} {span : Span}
    (measured : span.MeasuredBy extents) (within : ∀ extent ∈ extents, extent ∈ more) :
    span.MeasuredBy more := by
  obtain ⟨extent, member, same⟩ := measured
  exact ⟨extent, within extent member, same⟩

theorem Span.measuredBy_single {start stop : Nat} : (upTo start stop).MeasuredBy [(start, stop)] :=
  ⟨_, List.mem_singleton.2 rfl, rfl⟩

/-- What closing a conjunction leaves is as it was or has been measured. -/
theorem Frame.measured_closeConjunction {limit : DepthLimit} {stack stack' : List Frame}
    {tree tree' : Tree} (closed : closeConjunction limit stack tree = .ok (stack', tree')) :
    (∀ left ∈ held stack', left ∈ held stack) ∧
      (tree' = tree ∨ tree'.span.MeasuredBy (conjunctionExtents stack tree)) := by
  induction stack generalizing tree with
  | nil =>
    cases closed
    exact ⟨fun _ => id, .inl rfl⟩
  | cons frame stack ih =>
    cases frame with
    | group opening =>
      cases closed
      exact ⟨fun _ => id, .inl rfl⟩
    | negation mark =>
      rw [closeConjunction] at closed
      cases checked : limit.check (tree.negated mark.span.position) mark with
      | error => simp [checked, bind, Except.bind] at closed
      | ok found =>
        obtain rfl := DepthLimit.eq_of_check checked
        simp only [checked, bind, Except.bind] at closed
        obtain ⟨kept, made⟩ := ih closed
        refine ⟨kept, .inr ?_⟩
        rcases made with rfl | measured
        · exact ⟨_, List.mem_cons_self, rfl⟩
        · exact measured.mono fun _ => List.mem_cons_of_mem _
    | join connective left mark =>
      cases connective with
      | or =>
        cases closed
        exact ⟨fun _ => id, .inl rfl⟩
      | and =>
        rw [closeConjunction] at closed
        cases checked : limit.check (.joined .and left tree) mark with
        | error => simp [checked, bind, Except.bind] at closed
        | ok found =>
          obtain rfl := DepthLimit.eq_of_check checked
          simp only [checked, bind, Except.bind, pure, Except.pure] at closed
          cases closed
          exact ⟨fun _ => List.mem_cons_of_mem _, .inr Span.measuredBy_single⟩

theorem Frame.measured_closeDisjunction {limit : DepthLimit} {stack stack' : List Frame}
    {tree tree' : Tree} (closed : closeDisjunction limit stack tree = .ok (stack', tree')) :
    (∀ left ∈ held stack', left ∈ held stack) ∧
      (tree' = tree ∨ tree'.span.MeasuredBy (disjunctionExtents stack tree)) := by
  unfold closeDisjunction at closed
  split at closed
  · next left mark stack =>
    cases checked : limit.check (.joined .or left tree) mark with
    | error => simp [checked, bind, Except.bind] at closed
    | ok found =>
      obtain rfl := DepthLimit.eq_of_check checked
      simp only [checked, bind, Except.bind, pure, Except.pure] at closed
      cases closed
      exact ⟨fun _ => List.mem_cons_of_mem _, .inr Span.measuredBy_single⟩
  · cases closed
    exact ⟨fun _ => id, .inl rfl⟩

theorem Parser.measured_startOperand {limit : DepthLimit} {stack stack' : List Frame} {stage : Stage}
    {token : Token} (taken : startOperand limit stack token = .take stack' stage) :
    Frame.held stack' = Frame.held stack ∧
      ∀ tree ∈ stage.held, tree.span.MeasuredBy (operandExtents token) := by
  have here (kind : token.kind = .wildcard ∨ token.kind = .word ∨ token.kind.isLiteral) :
      token.span.MeasuredBy (operandExtents token) := by
    rw [operandExtents, if_pos kind]
    refine ⟨_, List.mem_singleton.2 rfl, ?_⟩
    simp [Span.upTo, Span.stop]
  unfold startOperand openLevel at taken
  split at taken
  · split at taken <;> cases taken
    exact ⟨rfl, List.forall_mem_nil _⟩
  · split at taken <;> cases taken
    exact ⟨rfl, List.forall_mem_nil _⟩
  all_goals
    cases taken
  · exact ⟨rfl, List.forall_mem_nil _⟩
  all_goals
    refine ⟨rfl, ?_⟩
    intro tree member
    obtain rfl := List.mem_singleton.1 member
    exact here (by simp [‹token.kind = _›, Token.Kind.isLiteral])

theorem Parser.measured_endGroup {stack stack' : List Frame} {stage : Stage} {tree : Tree}
    {token : Token} (taken : endGroup stack tree token = .take stack' stage) :
    Frame.held stack' = Frame.held stack ∧
      ∀ tree ∈ stage.held, tree.span.MeasuredBy (Frame.groupExtents stack token) := by
  unfold endGroup at taken
  split at taken
  · next opening stack =>
    split at taken
    · next closes =>
      cases taken
      refine ⟨rfl, ?_⟩
      intro tree member
      obtain rfl := List.mem_singleton.1 member
      rw [Frame.groupExtents, if_pos closes, Tree.span_withSpan]
      exact Span.measuredBy_single
    · cases taken
  · cases taken

theorem Parser.measured_continuation {limit : DepthLimit} {stack stack' : List Frame} {tree : Tree}
    {stage : Stage} {token : Token}
    (taken : continueOperand limit stack tree token = .take stack' stage) :
    ∀ made ∈ stage.held ++ Frame.held stack', made = tree ∨ made ∈ Frame.held stack ∨
      made.span.MeasuredBy (continuationExtents limit stack tree token) := by
  obtain ⟨inner, found, closed, moves⟩ :=
    Grammar.continueOperand_cases taken (.inl ⟨_, _, rfl⟩)
  obtain ⟨kept, made⟩ := Frame.measured_closeConjunction closed
  have ofInner {left : Tree} (member : left = found ∨ left ∈ Frame.held inner) :
      left = tree ∨ left ∈ Frame.held stack ∨
        left.span.MeasuredBy (continuationExtents limit stack tree token) := by
    rcases member with rfl | inside
    · rcases made with rfl | measured
      · exact .inl rfl
      · exact .inr (.inr (measured.mono fun _ => List.mem_append_left _))
    · exact .inr (.inl (kept left inside))
  rcases moves with ⟨kind, move⟩ | ⟨outer, whole, closed', moves⟩ | move
  · cases move
    intro left member
    exact ofInner (List.mem_cons.1 member)
  · obtain ⟨kept', made'⟩ := Frame.measured_closeDisjunction closed'
    have ending (kind : token.kind = .keyword .or ∨ token.kind = .rightParen ∨
        token.kind = .endOfInput) : continuationExtents limit stack tree token =
          Frame.conjunctionExtents stack tree ++
            (Frame.disjunctionExtents inner found ++ Frame.groupExtents outer token) := by
      rcases kind with kind | kind | kind <;> simp [continuationExtents, closed, kind, closed']
    have ofOuter (kind : token.kind = .keyword .or ∨ token.kind = .rightParen ∨
        token.kind = .endOfInput) {left : Tree} (member : left = whole ∨ left ∈ Frame.held outer) :
        left = tree ∨ left ∈ Frame.held stack ∨
          left.span.MeasuredBy (continuationExtents limit stack tree token) := by
      rcases member with rfl | inside
      · rcases made' with rfl | measured
        · exact ofInner (.inl rfl)
        · rw [ending kind]
          exact .inr (.inr (measured.mono fun _ inside =>
            List.mem_append_right _ (List.mem_append_left _ inside)))
      · exact ofInner (.inr (kept' left inside))
    rcases moves with ⟨kind, move⟩ | ⟨kind, move⟩
    · cases move
      intro left member
      exact ofOuter (.inl kind) (List.mem_cons.1 member)
    · obtain ⟨held, measured⟩ := measured_endGroup move.symm
      intro left member
      rcases List.mem_append.1 member with inStage | inStack
      · rw [ending (.inr kind)]
        exact .inr (.inr ((measured left inStage).mono fun _ inside =>
          List.mem_append_right _ (List.mem_append_right _ inside)))
      · rw [held] at inStack
        exact ofOuter (.inr kind) (.inr inStack)
  · obtain ⟨held, measured⟩ := measured_startOperand move.symm
    intro left member
    rcases List.mem_append.1 member with inStage | inStack
    · refine .inr (.inr ((measured left inStage).mono ?_))
      intro extent inside
      apply List.mem_append_right
      simp only [closed]
      split
      all_goals first
        | exact inside
        | simp [operandExtents, ‹token.kind = _›, Token.Kind.isLiteral] at inside
    · rw [held] at inStack
      exact ofInner (List.mem_cons.1 inStack)

/-- Every tree that the parser holds after a step was held before, or its span was measured. -/
theorem Parser.measured_step {limit : DepthLimit} {stack stack' : List Frame} {stage stage' : Stage}
    {token : Token} (taken : step limit stack stage token = .take stack' stage') :
    ∀ tree ∈ stage'.held ++ Frame.held stack', tree ∈ stage.held ++ Frame.held stack ∨
      tree.span.MeasuredBy (extents limit stack stage token) := by
  have clause {field : FieldName} {stop : Nat} {inner : Clause FieldName Literal}
      (moved : Move.take stack (completeClause field stop inner) = .take stack' stage')
      {more : List (Nat × Nat)} (measured : (field.span.position, stop) ∈ more) :
      ∀ tree ∈ stage'.held ++ Frame.held stack',
        tree ∈ Frame.held stack ∨ tree.span.MeasuredBy more := by
    cases moved
    intro tree member
    rcases List.mem_cons.1 member with rfl | inside
    · exact .inr ⟨_, measured, rfl⟩
    · exact .inl inside
  cases stage with
  | operand =>
    obtain ⟨held, measured⟩ := measured_startOperand taken
    intro tree member
    rcases List.mem_append.1 member with inStage | inStack
    · exact .inr (measured tree inStage)
    · exact .inl (held ▸ inStack)
  | afterOperand tree =>
    intro left member
    rcases measured_continuation taken left member with rfl | inside | measured
    · exact .inl List.mem_cons_self
    · exact .inl (List.mem_cons_of_mem _ inside)
    · exact .inr measured
  | colon field =>
    simp only [step] at taken
    split at taken <;> cases taken
    exact fun _ => .inl
  | clause field =>
    simp only [step] at taken
    split at taken
    · cases taken
      exact fun _ => .inl
    · cases taken
    · cases taken
      exact fun _ => .inl
    · obtain ⟨_, taken⟩ := Grammar.literal_of_expectLiteral taken
      cases taken
      exact fun _ => .inl
  | bound field comparison =>
    simp only [step] at taken
    obtain ⟨literal, taken⟩ := Grammar.literal_of_expectLiteral taken
    exact clause taken (by simp [extents, literal, Literal.ofToken])
  | afterValue field value =>
    simp only [step] at taken
    split at taken
    · cases taken
      exact fun _ => .inl
    · next noDots =>
      intro left member
      have extents_eq : extents limit stack (.afterValue field value) token = _ := if_neg noDots
      rw [extents_eq]
      rcases measured_continuation taken left member with rfl | inside | measured
      · exact .inr ⟨_, List.mem_cons_self, rfl⟩
      · exact .inl inside
      · exact .inr (measured.mono fun _ => List.mem_cons_of_mem _)
  | upperBound field lower =>
    simp only [step] at taken
    obtain ⟨literal, taken⟩ := Grammar.literal_of_expectLiteral taken
    exact clause taken (by simp [extents, literal, Literal.ofToken])
  | listOpening field =>
    simp only [step] at taken
    split at taken <;> cases taken
    exact fun _ => .inl
  | listValue field opening values =>
    simp only [step] at taken
    split at taken
    · cases taken
    · obtain ⟨_, taken⟩ := Grammar.literal_of_expectLiteral taken
      cases taken
      exact fun _ => .inl
  | listSeparator field opening values =>
    simp only [step] at taken
    split at taken
    · cases taken
      exact fun _ => .inl
    · next closes => exact clause taken (by simp [extents, closes])
    · cases taken

theorem Token.InOrder.middle {before row after : List Token}
    (ordered : InOrder (before ++ (row ++ after))) : InOrder row :=
  (List.pairwise_append.1 (List.pairwise_append.1 ordered).2.1).1

namespace Grammar

/-- No extent ends before it starts. -/
def Forward (extents : List (Nat × Nat)) : Prop :=
  ∀ extent ∈ extents, extent.1 ≤ extent.2

namespace Forward

variable {extents later : List (Nat × Nat)} {start stop : Nat}

theorem nil : Forward [] :=
  nofun

theorem cons (here : start ≤ stop) (rest : Forward later) : Forward ((start, stop) :: later) := by
  intro extent member
  rcases List.mem_cons.1 member with rfl | inside
  · exact here
  · exact rest extent inside

theorem single (here : start ≤ stop) : Forward [(start, stop)] :=
  nil.cons here

theorem ite {condition : Prop} [Decidable condition] (here : condition → start ≤ stop) :
    Forward (if condition then [(start, stop)] else []) := by
  split
  · next holds => exact .single (here holds)
  · exact .nil

theorem append (first : Forward extents) (second : Forward later) : Forward (extents ++ later) := by
  intro extent member
  rcases List.mem_append.1 member with inside | inside
  · exact first extent inside
  · exact second extent inside

end Forward

theorem Unary.encloses (part : Unary) (ordered : Token.InOrder part.tokens) :
    part.tree.span.Encloses part.tokens :=
  (Closed.nested.unary part ordered).1

theorem Conjunction.encloses (part : Conjunction) (ordered : Token.InOrder part.tokens) :
    part.tree.span.Encloses part.tokens :=
  (Closed.nested.conjunction part ordered).1

theorem Disjunction.encloses (part : Disjunction) (ordered : Token.InOrder part.tokens) :
    part.tree.span.Encloses part.tokens :=
  (Closed.nested.disjunction part ordered).1

variable {consumed : List Token} {stack : List Frame} {token : Token}

theorem Opens.forward_conjunction (opens : Opens consumed stack) (last : Unary)
    (ordered : Token.InOrder (consumed ++ last.tokens)) :
    Forward (Frame.conjunctionExtents stack last.tree) := by
  induction opens generalizing last with
  | start => exact .nil
  | group opening before => exact .nil
  | @negation consumed stack mark before ih =>
    rw [List.append_assoc] at ordered
    have row : Token.InOrder ([mark.val] ++ ([] ++ last.tokens)) := (List.pairwise_append.1 ordered).2.1
    have inner := last.encloses (List.pairwise_append.1 row).2.1
    have here := (Span.Encloses.single mark.val).position_le_stop inner row
    exact (ih (.negation mark last) (by rwa [Unary.tokens])).cons here
  | @conjunct consumed stack left mark blamed base before _ =>
    simp only [List.append_assoc] at ordered
    have row := (List.pairwise_append.1 ordered).2.1
    have outer := left.encloses (List.pairwise_append.1 row).1
    have inner := last.encloses (List.pairwise_append.1 (List.pairwise_append.1 row).2.1).2.1
    exact .single (outer.position_le_stop inner row)
  | disjunct left mark blamed base before => exact .nil

theorem Opens.forward_disjunction (opens : Opens consumed stack) (last : Conjunction)
    (ordered : Token.InOrder (consumed ++ last.tokens)) :
    Forward (Frame.disjunctionExtents stack last.tree) := by
  cases opens with
  | start => exact .nil
  | group opening before => exact .nil
  | negation mark before => exact .nil
  | conjunct left mark blamed base before => exact .nil
  | @disjunct consumed stack left mark blamed base before =>
    simp only [List.append_assoc] at ordered
    have row := (List.pairwise_append.1 ordered).2.1
    have outer := left.encloses (List.pairwise_append.1 row).1
    have inner := last.encloses (List.pairwise_append.1 (List.pairwise_append.1 row).2.1).2.1
    exact .single (outer.position_le_stop inner row)

theorem Opens.forward_group {inner : List Token} (opens : Opens consumed stack)
    (ordered : Token.InOrder (consumed ++ (inner ++ [token]))) :
    Forward (Frame.groupExtents stack token) := by
  cases opens with
  | start => exact .nil
  | negation mark before => exact .nil
  | conjunct left mark blamed base before => exact .nil
  | disjunct left mark blamed base before => exact .nil
  | @group consumed stack opening before =>
    rw [List.append_assoc] at ordered
    exact .ite fun _ => (Span.Encloses.single opening.val).position_le_stop (.single token)
      (List.pairwise_append.1 ordered).2.1

theorem forward_operand (token : Token) : Forward (Parser.operandExtents token) :=
  .ite fun _ => token.span.position_le_stop

theorem Opens.forward_continuation (opens : Opens consumed stack) (limit : DepthLimit)
    (last : Unary) (ordered : Token.InOrder (consumed ++ (last.tokens ++ [token]))) :
    Forward (Parser.continuationExtents limit stack last.tree token) := by
  rw [← List.append_assoc] at ordered
  have before := (List.pairwise_append.1 ordered).1
  apply (opens.forward_conjunction last before).append
  cases closed : Frame.closeConjunction limit stack last.tree with
  | error => exact .nil
  | ok pair =>
    obtain ⟨stack', tree⟩ := pair
    obtain ⟨earlier, left, opens', base, same, rfl⟩ := opens.closeConjunction last closed
    rw [same] at ordered before
    have closing : Forward (Frame.disjunctionExtents stack' left.tree ++
        match Frame.closeDisjunction limit stack' left.tree with
        | .error _ => []
        | .ok (stack, _) => Frame.groupExtents stack token) := by
      apply (opens'.forward_disjunction left before).append
      cases closed' : Frame.closeDisjunction limit stack' left.tree with
      | error => exact .nil
      | ok pair =>
        obtain ⟨stack'', tree⟩ := pair
        obtain ⟨earliest, whole, opens'', _, same', rfl⟩ := opens'.closeDisjunction base left closed'
        rw [same', List.append_assoc] at ordered
        exact opens''.forward_group ordered
    dsimp only
    split
    · exact .nil
    · exact closing
    · exact closing
    · exact closing
    · exact forward_operand token

/-- The field of a clause comes before all that stands behind its colon. -/
theorem InClause.forward {field : FieldName} {body : List Token}
    (clause : InClause consumed stack field body)
    (ordered : Token.InOrder (consumed ++ [token])) : field.span.position ≤ token.span.stop := by
  obtain ⟨before, name, colon, _, rfl, rfl⟩ := clause
  rw [List.append_assoc] at ordered
  have row : Token.InOrder ([name.val] ++ (colon.val :: body ++ [token])) :=
    (List.pairwise_append.1 ordered).2.1
  exact (Span.Encloses.single name.val).position_le_stop (.single token) row

/-- Wherever the parser gets to, nothing that it measures ends before it starts. -/
theorem Reached.forward {limit : DepthLimit} {stage : Stage} (reached : Reached consumed stack stage)
    (ordered : Token.InOrder (consumed ++ [token])) :
    Forward (Parser.extents limit stack stage token) := by
  cases stage with
  | operand => exact forward_operand token
  | afterOperand tree =>
    obtain ⟨before, last, opens, rfl, rfl⟩ := reached
    rw [List.append_assoc] at ordered
    exact opens.forward_continuation limit last ordered
  | colon field => exact .nil
  | clause field => exact .nil
  | bound field comparison =>
    obtain ⟨mark, clause⟩ := reached
    exact .ite fun _ => clause.forward ordered
  | afterValue field value =>
    obtain ⟨read, rfl, before, name, colon, opens, rfl, rfl⟩ := reached
    rw [List.append_assoc] at ordered
    have row : Token.InOrder ([name.val] ++ ([colon.val] ++ [read.val])) := ordered.middle
    have here := (Span.Encloses.single name.val).position_le_stop (.single read.val) row
    have later := opens.forward_continuation limit
      (.leaf (.onField name colon (.equals read))) ordered
    simp only [Parser.extents]
    split
    · exact .nil
    · exact later.cons here
  | upperBound field lower =>
    obtain ⟨low, dots, _, clause⟩ := reached
    exact .ite fun _ => clause.forward ordered
  | listOpening field => exact .nil
  | listValue field opening values =>
    obtain ⟨word, _, read⟩ := reached
    apply Forward.ite
    rintro ⟨_, empty⟩
    rcases read with ⟨_, before, name, colon, _, _, rfl⟩ | ⟨items, comma, same, _⟩
    · have row : Token.InOrder ((before ++ [name.val, colon.val, word.val]) ++
          ([opening] ++ ([] ++ [token]))) := by simpa using ordered
      exact (Span.Encloses.single opening).position_le_stop (.single token)
        (List.pairwise_append.1 row).2.1
    · rw [empty] at same
      simp [Items.literals] at same
  | listSeparator field opening values =>
    obtain ⟨word, items, _, _, clause⟩ := reached
    exact .ite fun _ => clause.forward ordered

/-- A run over tokens that stand one behind the other measures no extent that ends before it starts. -/
theorem Reached.forward_visits {limit : DepthLimit} {stage : Stage} {tokens : List Token}
    (reached : Reached consumed stack stage) (ordered : Token.InOrder (consumed ++ tokens)) :
    ∀ visit ∈ Parser.visits limit stack stage tokens,
      Forward (Parser.extents limit visit.stack visit.stage visit.token) := by
  induction tokens generalizing consumed stack stage with
  | nil => exact List.forall_mem_nil _
  | cons token later ih =>
    have split : Token.InOrder (consumed ++ [token] ++ later) := by simpa using ordered
    intro visit member
    rcases List.mem_cons.1 member with rfl | inLater
    · exact reached.forward (List.pairwise_append.1 split).1
    · cases moved : Parser.step limit stack stage token with
      | take stack' stage' =>
        rw [moved] at inLater
        exact ih (reached.step moved) split visit inLater
      | finish tree => rw [moved] at inLater; cases inLater
      | refuse diagnostic => rw [moved] at inLater; cases inLater
      | refuseAfter diagnostic => rw [moved] at inLater; cases inLater

end Grammar

end SearchBox
