import SearchBox.Proofs.Grammar.Derivation

/-! The parser reads every derivation: with the tokens of a derivation ahead it comes to the tree of
the derivation and stands behind them, as long as the limit allows its nesting and its height. -/

namespace SearchBox

namespace DepthLimit

/-- Whether the height of a tree is allowed. A leaf always is. -/
def admits (limit : DepthLimit) : Tree → Bool
  | .leaf _ _ => true
  | tree => limit.allows tree.depth

theorem allows_of_le {limit : DepthLimit} {small large : Nat} (within : small ≤ large)
    (allowed : limit.allows large = true) : limit.allows small = true := by
  cases limit with
  | none => rfl
  | some most =>
    simp only [allows, decide_eq_true_eq] at allowed ⊢
    omega

theorem allows_some {most depth : Nat} (within : depth ≤ most) : allows (some most) depth = true :=
  decide_eq_true within

theorem admits_of_depth_le {limit : DepthLimit} {tree : Tree} (height : Nat)
    (within : tree.depth ≤ height) (allowed : limit.allows height = true) :
    limit.admits tree = true := by
  cases tree with
  | leaf => rfl
  | join => exact allows_of_le within allowed
  | negation => exact allows_of_le within allowed

theorem admits_left {limit : DepthLimit} {connective : Connective} {left right : Tree}
    (admitted : limit.admits (.joined connective left right) = true) :
    limit.admits left = true :=
  admits_of_depth_le (1 + max left.depth right.depth) (by omega) admitted

theorem admits_right {limit : DepthLimit} {connective : Connective} {left right : Tree}
    (admitted : limit.admits (.joined connective left right) = true) :
    limit.admits right = true :=
  admits_of_depth_le (1 + max left.depth right.depth) (by omega) admitted

theorem admits_inner {limit : DepthLimit} {start : Nat} {inner : Tree}
    (admitted : limit.admits (inner.negated start) = true) : limit.admits inner = true :=
  admits_of_depth_le (1 + inner.depth) (by omega) admitted

@[simp] theorem admits_withSpan (limit : DepthLimit) (span : Span) (tree : Tree) :
    limit.admits (tree.withSpan span) = limit.admits tree := by
  cases tree <;> rfl

theorem check_joined {limit : DepthLimit} {connective : Connective} {left right : Tree}
    (mark : Token) (admitted : limit.admits (.joined connective left right) = true) :
    limit.check (.joined connective left right) mark = .ok (.joined connective left right) :=
  if_pos admitted

theorem check_negated {limit : DepthLimit} {start : Nat} {inner : Tree} (mark : Token)
    (admitted : limit.admits (inner.negated start) = true) :
    limit.check (inner.negated start) mark = .ok (inner.negated start) :=
  if_pos admitted

end DepthLimit

namespace Frame

/-- Whether an operand read on the stack begins a conjunction. -/
def OpensConjunction : List Frame → Prop
  | [] | group _ :: _ | join .or _ _ :: _ => True
  | negation _ :: _ | join .and _ _ :: _ => False

/-- Whether an operand read on the stack begins a disjunction. -/
def OpensDisjunction : List Frame → Prop
  | [] | group _ :: _ => True
  | negation _ :: _ | join _ _ _ :: _ => False

theorem OpensDisjunction.opensConjunction {stack : List Frame} (opens : OpensDisjunction stack) :
    OpensConjunction stack := by
  unfold OpensDisjunction at opens
  split at opens
  · trivial
  · trivial
  · exact opens.elim
  · exact opens.elim

theorem closeConjunction_of_opens (limit : DepthLimit) {stack : List Frame} (tree : Tree)
    (opens : OpensConjunction stack) : closeConjunction limit stack tree = .ok (stack, tree) := by
  unfold OpensConjunction at opens
  split at opens
  · rfl
  · rfl
  · rfl
  · exact opens.elim
  · exact opens.elim

theorem closeDisjunction_of_opens (limit : DepthLimit) {stack : List Frame} (tree : Tree)
    (opens : OpensDisjunction stack) : closeDisjunction limit stack tree = .ok (stack, tree) := by
  unfold OpensDisjunction at opens
  split at opens
  · rfl
  · rfl
  · exact opens.elim
  · exact opens.elim

theorem closeConjunction_negation {limit : DepthLimit} (stack : List Frame) {mark : Token}
    {tree : Tree} (admitted : limit.admits (tree.negated mark.span.position) = true) :
    closeConjunction limit (negation mark :: stack) tree =
      closeConjunction limit stack (tree.negated mark.span.position) := by
  rw [closeConjunction, DepthLimit.check_negated mark admitted]
  rfl

theorem closeConjunction_join {limit : DepthLimit} (stack : List Frame) {left tree : Tree}
    (mark : Token) (admitted : limit.admits (.joined .and left tree) = true) :
    closeConjunction limit (join .and left mark :: stack) tree =
      .ok (stack, .joined .and left tree) := by
  rw [closeConjunction, DepthLimit.check_joined mark admitted]
  rfl

theorem closeDisjunction_join {limit : DepthLimit} (stack : List Frame) {left tree : Tree}
    (mark : Token) (admitted : limit.admits (.joined .or left tree) = true) :
    closeDisjunction limit (join .or left mark :: stack) tree =
      .ok (stack, .joined .or left tree) := by
  rw [closeDisjunction, DepthLimit.check_joined mark admitted]
  rfl

end Frame

namespace Grammar

/-- Whether the next token has a kind of some class. -/
def Ahead (accepts : Token.Kind → Prop) (rest : List Token) : Prop :=
  ∃ token later, rest = token :: later ∧ accepts token.kind

/-- The next token does not make a range of a value. -/
abbrev NoDots : List Token → Prop :=
  Ahead (· ≠ .range .span)

theorem NoDots.of_endsConjunction {rest : List Token}
    (ahead : Ahead (endsConjunction · = true) rest) : NoDots rest := by
  obtain ⟨token, later, rfl, ends⟩ := ahead
  exact ⟨token, later, rfl, fun dots => by simp [dots, endsConjunction] at ends⟩

theorem ne_dots_of_startsOperand {kind : Token.Kind} (starts : startsOperand kind = true) :
    kind ≠ .range .span := by
  rintro rfl
  simp [startsOperand, Token.Kind.isLiteral] at starts

/-! The first token of a part, which decides how the parser goes on. -/

theorem Leaf.ahead (leaf : Leaf) (rest : List Token) :
    Ahead (startsOperand · = true) (leaf.tokens ++ rest) := by
  cases leaf with
  | term token =>
    refine ⟨token.val, rest, rfl, ?_⟩
    rcases token.property with word | literal
    · rw [word]
      rfl
    · cases kind : token.val.kind <;> simp_all [startsOperand, Token.Kind.isLiteral]
  | wildcard token => exact ⟨token.val, rest, rfl, by rw [token.property]; rfl⟩
  | onField field colon body => exact ⟨field.val, _, rfl, by rw [field.property]; rfl⟩

theorem Unary.ahead (unary : Unary) (rest : List Token) :
    Ahead (startsOperand · = true) (unary.tokens ++ rest) := by
  cases unary with
  | negation mark inner => exact ⟨mark.val, _, rfl, by rw [mark.property]; rfl⟩
  | group opening inner closing => exact ⟨opening.val, _, rfl, by rw [opening.property]; rfl⟩
  | leaf leaf => exact leaf.ahead rest

theorem Conjuncts.noDots (others : Conjuncts) {rest : List Token} (closed : NoDots rest) :
    NoDots (others.tokens ++ rest) := by
  cases others with
  | none => exact closed
  | more mark next others =>
    cases mark with
    | none =>
      simp only [Conjuncts.tokens, Option.map_none, Option.toList_none, List.nil_append,
        List.append_assoc]
      obtain ⟨token, later, same, starts⟩ := next.ahead (others.tokens ++ rest)
      exact ⟨token, later, same, ne_dots_of_startsOperand starts⟩
    | some mark => exact ⟨mark.val, _, rfl, by rw [mark.property]; decide⟩

theorem Disjuncts.ahead (others : Disjuncts) {rest : List Token}
    (ends : Ahead (endsConjunction · = true) rest) :
    Ahead (endsConjunction · = true) (others.tokens ++ rest) := by
  cases others with
  | none => exact ends
  | more mark next others => exact ⟨mark.val, _, rfl, by rw [mark.property]; rfl⟩

end Grammar

namespace Parser

variable {limit : DepthLimit}

theorem run_of_take {stack stack' : List Frame} {stage stage' : Stage} {token : Token}
    (later : List Token) (taken : step limit stack stage token = .take stack' stage') :
    run limit stack stage (token :: later) = run limit stack' stage' later := by
  rw [run, taken]

theorem run_congr {stack stack' : List Frame} {stage stage' : Stage} {token : Token}
    (later : List Token) (same : step limit stack stage token = step limit stack' stage' token) :
    run limit stack stage (token :: later) = run limit stack' stage' (token :: later) := by
  rw [run, run, same]

theorem expectLiteral_value (field : FieldName) (value : Grammar.ValueToken)
    (next : Literal → Move) : expectLiteral field value.val next = next (.ofToken value.val) := by
  have literal := value.property
  unfold expectLiteral
  split <;> simp_all [Token.Kind.isLiteral]

theorem startOperand_term (stack : List Frame) (token : Grammar.TermToken) :
    startOperand limit stack token.val =
      .take stack (.afterOperand (.leaf token.val.span (.term token.val.value))) := by
  have kind := token.property
  unfold startOperand
  split <;> simp_all [Token.Kind.isLiteral]

theorem startOperand_wildcard (stack : List Frame) (token : Grammar.Mark .wildcard) :
    startOperand limit stack token.val = .take stack
      (.afterOperand (.leaf token.val.span (.wildcard token.val.value token.val.isQuoted))) := by
  simp [startOperand, token.property]

theorem step_clause_value (stack : List Frame) (field : FieldName) (value : Grammar.ValueToken) :
    step limit stack (.clause field) value.val =
      .take stack (.afterValue field (.ofToken value.val)) := by
  have literal := value.property
  have read := expectLiteral_value field value fun value => .take stack (.afterValue field value)
  simp only [step]
  split
  · next word => simp [word, Token.Kind.isLiteral] at literal
  · next dots => simp [dots, Token.Kind.isLiteral] at literal
  · next mark => simp [mark, Token.Kind.isLiteral] at literal
  · exact read

/-- Behind a value, anything but the dots of a range completes the clause. -/
theorem run_afterValue (stack : List Frame) (field : FieldName) (value : Literal)
    {rest : List Token} (closed : Grammar.NoDots rest) :
    run limit stack (.afterValue field value) rest =
      run limit stack
        (.afterOperand (.leaf (Span.upTo field.span.position value.span.stop) (.equals field value)))
        rest := by
  obtain ⟨token, later, rfl, noDots⟩ := closed
  exact run_congr later (by simp [step, noDots])

theorem step_comma (stack : List Frame) (field : FieldName) (opening : Token) (values : List Literal)
    (comma : Grammar.Mark .comma) : step limit stack (.listSeparator field opening values) comma.val =
      .take stack (.listValue field opening values) := by
  simp [step, comma.property]

theorem step_listValue (stack : List Frame) (field : FieldName) (opening : Token)
    (values : List Literal) (value : Grammar.ValueToken) :
    step limit stack (.listValue field opening values) value.val =
      .take stack (.listSeparator field opening (.ofToken value.val :: values)) := by
  have noParen : value.val.kind ≠ .rightParen := by
    intro paren
    simpa [paren, Token.Kind.isLiteral] using value.property
  simp [step, noParen, expectLiteral_value]

theorem run_listSeparator (stack : List Frame) (field : FieldName) (opening : Token)
    (others : List (Grammar.Mark .comma × Grammar.ValueToken)) (values : List Literal)
    (rest : List Token) :
    run limit stack (.listSeparator field opening values)
        ((others.flatMap fun other => [other.1.val, other.2.val]) ++ rest) =
      run limit stack
        (.listSeparator field opening
          ((others.map fun other => .ofToken other.2.val).reverse ++ values)) rest := by
  induction others generalizing values with
  | nil => rfl
  | cons other others ih =>
    obtain ⟨comma, value⟩ := other
    simp only [List.flatMap_cons, List.cons_append, List.nil_append, List.map_cons,
      List.reverse_cons, List.append_assoc]
    rw [run_of_take _ (step_comma stack field opening values comma),
      run_of_take _ (step_listValue stack field opening values value), ih]

theorem run_items (stack : List Frame) (field : FieldName) (opening : Token)
    (items : Grammar.Items) (rest : List Token) :
    run limit stack (.listValue field opening []) (items.tokens ++ rest) =
      run limit stack (.listSeparator field opening items.literals.reverse) rest := by
  rw [Grammar.Items.tokens, List.cons_append,
    run_of_take _ (step_listValue stack field opening [] items.first), run_listSeparator,
    Grammar.Items.literals, List.reverse_cons]

/-- The clause of a field, from behind the colon on. -/
theorem run_body (stack : List Frame) (field : FieldName) (body : Grammar.Body)
    {rest : List Token} (closed : Grammar.NoDots rest) :
    run limit stack (.clause field) (body.tokens ++ rest) =
      run limit stack
        (.afterOperand (.leaf (Span.upTo field.span.position body.stop) (body.clause field)))
        rest := by
  cases body with
  | equals value =>
    rw [Grammar.Body.tokens, List.cons_append, run_of_take _ (step_clause_value stack field value),
      List.nil_append, run_afterValue _ _ _ closed]
    rfl
  | bound comparison mark value =>
    have marked : step limit stack (.clause field) mark.val =
        .take stack (.bound field comparison) := by
      simp [step, mark.property]
    have bounded : step limit stack (.bound field comparison) value.val =
        .take stack (completeClause field value.val.span.stop
          (.range field (.bound comparison) (.ofToken value.val) none)) := by
      rw [step, expectLiteral_value]
      rfl
    rw [Grammar.Body.tokens, List.cons_append, run_of_take _ marked]
    exact run_of_take rest bounded
  | between low dots high =>
    have dotted : step limit stack (.afterValue field (.ofToken low.val)) dots.val =
        .take stack (.upperBound field (.ofToken low.val)) := by
      simp [step, dots.property]
    have bounded : step limit stack (.upperBound field (.ofToken low.val)) high.val =
        .take stack (completeClause field high.val.span.stop
          (.range field .between (.ofToken low.val) (some (.ofToken high.val)))) := by
      rw [step, expectLiteral_value]
      rfl
    rw [Grammar.Body.tokens, List.cons_append, run_of_take _ (step_clause_value stack field low),
      List.cons_append, run_of_take _ dotted]
    exact run_of_take rest bounded
  | list word opening items closing =>
    have listed : step limit stack (.clause field) word.val = .take stack (.listOpening field) := by
      simp [step, word.property]
    have opened : step limit stack (.listOpening field) opening.val =
        .take stack (.listValue field opening.val []) := by
      simp [step, opening.property]
    have closed' : step limit stack (.listSeparator field opening.val items.literals.reverse)
        closing.val = .take stack
          (completeClause field closing.val.span.stop (.member field items.literals)) := by
      simp [step, closing.property]
    rw [Grammar.Body.tokens, List.cons_append, run_of_take _ listed, List.cons_append,
      run_of_take _ opened, List.append_assoc, run_items]
    exact run_of_take _ closed'

/-- A field and its colon. -/
theorem run_onField (stack : List Frame) (field : Grammar.Mark .fieldName)
    (colon : Grammar.Mark .colon) (later : List Token) :
    run limit stack .operand (field.val :: colon.val :: later) =
      run limit stack (.clause (.ofToken field.val)) later := by
  have named : step limit stack .operand field.val =
      .take stack (.colon (.ofToken field.val)) := by
    simp [step, startOperand, field.property]
  have parted : step limit stack (.colon (.ofToken field.val)) colon.val =
      .take stack (.clause (.ofToken field.val)) := by
    simp [step, colon.property]
  rw [run_of_take _ named, run_of_take _ parted]

theorem run_leaf (stack : List Frame) (leaf : Grammar.Leaf) {rest : List Token}
    (closed : Grammar.NoDots rest) :
    run limit stack .operand (leaf.tokens ++ rest) =
      run limit stack (.afterOperand leaf.tree) rest := by
  cases leaf with
  | term token => exact run_of_take rest (startOperand_term stack token)
  | wildcard token => exact run_of_take rest (startOperand_wildcard stack token)
  | onField field colon body =>
    rw [Grammar.Leaf.tokens, List.cons_append, List.cons_append, run_onField,
      run_body _ _ _ closed]
    rfl

theorem startOperand_opening (stack : List Frame) (opening : Grammar.Mark .leftParen) :
    startOperand limit stack opening.val =
      openLevel limit stack (.group opening.val) opening.val := by
  simp only [startOperand, opening.property]

theorem startOperand_not (stack : List Frame) (mark : Grammar.Mark (.keyword .not)) :
    startOperand limit stack mark.val = openLevel limit stack (.negation mark.val) mark.val := by
  simp only [startOperand, mark.property]

/-- What opens a level is taken where the limit allows one more. -/
theorem run_opened {stack : List Frame} {frame : Frame} {token : Token}
    (opens : startOperand limit stack token = openLevel limit stack frame token)
    (within : limit.allows (Frame.nesting stack + 1) = true) (later : List Token) :
    run limit stack .operand (token :: later) = run limit (frame :: stack) .operand later :=
  run_of_take later (opens.trans (if_pos within))

/-! What ends with an operand is closed when the parser goes on. So behind an operand it does not
matter whether a negation or a join is still open or its tree already made. -/

theorem run_afterOperand_congr {stack stack' : List Frame} {tree tree' : Tree} {rest : List Token}
    (closed : Grammar.NoDots rest)
    (same : Frame.closeConjunction limit stack tree = Frame.closeConjunction limit stack' tree') :
    run limit stack (.afterOperand tree) rest = run limit stack' (.afterOperand tree') rest := by
  obtain ⟨token, later, rfl, _⟩ := closed
  apply run_congr
  simp only [step, continueOperand, same]

theorem run_afterOperand_conjunct {stack : List Frame} {left tree : Tree} (mark : Token)
    {rest : List Token} (opens : Frame.OpensConjunction stack) (closed : Grammar.NoDots rest)
    (admitted : limit.admits (.joined .and left tree) = true) :
    run limit (.join .and left mark :: stack) (.afterOperand tree) rest =
      run limit stack (.afterOperand (.joined .and left tree)) rest := by
  apply run_afterOperand_congr closed
  rw [Frame.closeConjunction_join stack mark admitted,
    Frame.closeConjunction_of_opens limit _ opens]

theorem run_afterOperand_disjunct {stack : List Frame} {left tree : Tree} (mark : Token)
    {rest : List Token} (opens : Frame.OpensDisjunction stack)
    (ends : Grammar.Ahead (Grammar.endsConjunction · = true) rest)
    (admitted : limit.admits (.joined .or left tree) = true) :
    run limit (.join .or left mark :: stack) (.afterOperand tree) rest =
      run limit stack (.afterOperand (.joined .or left tree)) rest := by
  obtain ⟨token, later, rfl, kind⟩ := ends
  apply run_congr
  simp only [step, continueOperand]
  rw [Frame.closeConjunction_of_opens limit tree (by trivial),
    Frame.closeConjunction_of_opens limit _ opens.opensConjunction]
  simp only [Move.ofExcept]
  rw [Frame.closeDisjunction_join stack mark admitted,
    Frame.closeDisjunction_of_opens limit _ opens]
  split <;> simp_all [Grammar.endsConjunction]

/-- The word `AND` after an operand. -/
theorem step_and {stack : List Frame} (tree : Tree) (mark : Grammar.Mark (.keyword .and))
    (opens : Frame.OpensConjunction stack) :
    step limit stack (.afterOperand tree) mark.val =
      .take (.join .and tree mark.val :: stack) .operand := by
  simp only [step, continueOperand, Frame.closeConjunction_of_opens limit tree opens,
    Move.ofExcept, mark.property]

/-- The word `OR` after a conjunction. -/
theorem step_or {stack : List Frame} (tree : Tree) (mark : Grammar.Mark (.keyword .or))
    (opens : Frame.OpensDisjunction stack) :
    step limit stack (.afterOperand tree) mark.val =
      .take (.join .or tree mark.val :: stack) .operand := by
  simp only [step, continueOperand,
    Frame.closeConjunction_of_opens limit tree opens.opensConjunction,
    Frame.closeDisjunction_of_opens limit tree opens, Move.ofExcept, mark.property]

/-- The first token of another operand, which is joined by an `AND` that is not written. -/
theorem step_juxtaposed {stack : List Frame} (tree : Tree) {token : Token}
    (opens : Frame.OpensConjunction stack) (starts : Grammar.startsOperand token.kind = true) :
    step limit stack (.afterOperand tree) token =
      step limit (.join .and tree token :: stack) .operand token := by
  simp only [step, continueOperand, Frame.closeConjunction_of_opens limit tree opens,
    Move.ofExcept]
  split <;> simp_all [Grammar.startsOperand, Token.Kind.isLiteral]

/-- Written or not, the `AND` leaves the same join open, up to the token it is blamed on. -/
theorem exists_run_conjunct {stack : List Frame} (left : Tree)
    (mark : Option (Grammar.Mark (.keyword .and))) (next : Grammar.Unary) (rest : List Token)
    (opens : Frame.OpensConjunction stack) :
    ∃ token, run limit stack (.afterOperand left)
        ((mark.map Subtype.val).toList ++ (next.tokens ++ rest)) =
      run limit (.join .and left token :: stack) .operand (next.tokens ++ rest) := by
  cases mark with
  | some mark => exact ⟨mark.val, run_of_take _ (step_and left mark opens)⟩
  | none =>
    obtain ⟨token, after, same, starts⟩ := next.ahead rest
    rw [Option.map_none, Option.toList_none, List.nil_append, same]
    exact ⟨token, run_congr after (step_juxtaposed left opens starts)⟩

/-- The parenthesis that closes a group. -/
theorem step_closing (stack : List Frame) (opening : Token) (tree : Tree)
    (closing : Grammar.Mark .rightParen) :
    step limit (.group opening :: stack) (.afterOperand tree) closing.val =
      .take stack (.afterOperand (tree.withSpan
        ⟨opening.span.position, closing.val.span.stop - opening.span.position⟩)) := by
  have opens : Frame.OpensDisjunction (.group opening :: stack) := trivial
  simp only [step, continueOperand,
    Frame.closeConjunction_of_opens limit tree opens.opensConjunction,
    Frame.closeDisjunction_of_opens limit tree opens, Move.ofExcept, closing.property, endGroup, if_true]

/-- What is below the top of a chain is admitted with the chain. -/
theorem admits_of_conjuncts (others : Grammar.Conjuncts) {left : Tree}
    (admitted : limit.admits (others.joinedTo left) = true) : limit.admits left = true := by
  match others with
  | .none => exact admitted
  | .more _ next others =>
    exact DepthLimit.admits_left (admits_of_conjuncts others admitted)

theorem admits_of_disjuncts (others : Grammar.Disjuncts) {left : Tree}
    (admitted : limit.admits (others.joinedTo left) = true) : limit.admits left = true := by
  match others with
  | .none => exact admitted
  | .more _ next others =>
    exact DepthLimit.admits_left (admits_of_disjuncts others admitted)

/-! Each part is read on any stack that it can stand on. The limit has to allow the groups and
negations around every token, those on the stack counted in, and the height of the tree. -/

mutual

theorem run_disjunction (part : Grammar.Disjunction) (stack : List Frame) {rest : List Token}
    (opens : Frame.OpensDisjunction stack)
    (ends : Grammar.Ahead (Grammar.endsConjunction · = true) rest)
    (nested : limit.allows (Frame.nesting stack + part.nesting) = true)
    (admitted : limit.admits part.tree = true) :
    run limit stack .operand (part.tokens ++ rest) =
      run limit stack (.afterOperand part.tree) rest := by
  match part with
  | .mk first others =>
    simp only [Grammar.Disjunction.nesting] at nested
    rw [Grammar.Disjunction.tokens, List.append_assoc,
      run_conjunction first stack opens.opensConjunction (others.ahead ends)
        (DepthLimit.allows_of_le (by omega) nested) (admits_of_disjuncts others admitted)]
    exact run_disjuncts others first.tree stack opens ends
      (DepthLimit.allows_of_le (by omega) nested) admitted

theorem run_disjuncts (others : Grammar.Disjuncts) (left : Tree) (stack : List Frame)
    {rest : List Token} (opens : Frame.OpensDisjunction stack)
    (ends : Grammar.Ahead (Grammar.endsConjunction · = true) rest)
    (nested : limit.allows (Frame.nesting stack + others.nesting) = true)
    (admitted : limit.admits (others.joinedTo left) = true) :
    run limit stack (.afterOperand left) (others.tokens ++ rest) =
      run limit stack (.afterOperand (others.joinedTo left)) rest := by
  match others with
  | .none => rfl
  | .more mark next others =>
    have joined : limit.admits (.joined .or left next.tree) = true :=
      admits_of_disjuncts others admitted
    simp only [Grammar.Disjuncts.nesting] at nested
    rw [Grammar.Disjuncts.tokens, List.cons_append, run_of_take _ (step_or left mark opens),
      List.append_assoc,
      run_conjunction next (.join .or left mark.val :: stack) (by trivial) (others.ahead ends)
        (DepthLimit.allows_of_le (by simp only [Frame.nesting]; omega) nested)
        (DepthLimit.admits_right joined),
      run_afterOperand_disjunct mark.val opens (others.ahead ends) joined]
    exact run_disjuncts others _ stack opens ends (DepthLimit.allows_of_le (by omega) nested)
      admitted

theorem run_conjunction (part : Grammar.Conjunction) (stack : List Frame) {rest : List Token}
    (opens : Frame.OpensConjunction stack)
    (ends : Grammar.Ahead (Grammar.endsConjunction · = true) rest)
    (nested : limit.allows (Frame.nesting stack + part.nesting) = true)
    (admitted : limit.admits part.tree = true) :
    run limit stack .operand (part.tokens ++ rest) =
      run limit stack (.afterOperand part.tree) rest := by
  match part with
  | .mk first others =>
    have closed := Grammar.NoDots.of_endsConjunction ends
    simp only [Grammar.Conjunction.nesting] at nested
    rw [Grammar.Conjunction.tokens, List.append_assoc,
      run_unary first stack (others.noDots closed) (DepthLimit.allows_of_le (by omega) nested)
        (admits_of_conjuncts others admitted)]
    exact run_conjuncts others first.tree stack opens closed
      (DepthLimit.allows_of_le (by omega) nested) admitted

theorem run_conjuncts (others : Grammar.Conjuncts) (left : Tree) (stack : List Frame)
    {rest : List Token} (opens : Frame.OpensConjunction stack) (closed : Grammar.NoDots rest)
    (nested : limit.allows (Frame.nesting stack + others.nesting) = true)
    (admitted : limit.admits (others.joinedTo left) = true) :
    run limit stack (.afterOperand left) (others.tokens ++ rest) =
      run limit stack (.afterOperand (others.joinedTo left)) rest := by
  match others with
  | .none => rfl
  | .more mark next others =>
    have joined : limit.admits (.joined .and left next.tree) = true :=
      admits_of_conjuncts others admitted
    simp only [Grammar.Conjuncts.nesting] at nested
    obtain ⟨token, marked⟩ := exists_run_conjunct left mark next (others.tokens ++ rest) opens
    rw [Grammar.Conjuncts.tokens, List.append_assoc, List.append_assoc, marked,
      run_unary next (.join .and left token :: stack) (others.noDots closed)
        (DepthLimit.allows_of_le (by simp only [Frame.nesting]; omega) nested)
        (DepthLimit.admits_right joined),
      run_afterOperand_conjunct token opens (others.noDots closed) joined]
    exact run_conjuncts others _ stack opens closed (DepthLimit.allows_of_le (by omega) nested)
      admitted

theorem run_unary (part : Grammar.Unary) (stack : List Frame) {rest : List Token}
    (closed : Grammar.NoDots rest)
    (nested : limit.allows (Frame.nesting stack + part.nesting) = true)
    (admitted : limit.admits part.tree = true) :
    run limit stack .operand (part.tokens ++ rest) =
      run limit stack (.afterOperand part.tree) rest := by
  match part with
  | .leaf leaf => exact run_leaf stack leaf closed
  | .negation mark inner =>
    simp only [Grammar.Unary.nesting] at nested
    rw [Grammar.Unary.tokens, List.cons_append,
      run_opened (startOperand_not stack mark) (DepthLimit.allows_of_le (by omega) nested),
      run_unary inner (.negation mark.val :: stack) closed
        (DepthLimit.allows_of_le (by simp only [Frame.nesting]; omega) nested)
        (DepthLimit.admits_inner admitted)]
    exact run_afterOperand_congr closed (Frame.closeConjunction_negation stack admitted)
  | .group opening inner closing =>
    simp only [Grammar.Unary.nesting] at nested
    rw [Grammar.Unary.tree, DepthLimit.admits_withSpan] at admitted
    have ends : Grammar.Ahead (Grammar.endsConjunction · = true) (closing.val :: rest) :=
      ⟨closing.val, rest, rfl, by rw [closing.property]; rfl⟩
    rw [Grammar.Unary.tokens, List.cons_append,
      run_opened (startOperand_opening stack opening) (DepthLimit.allows_of_le (by omega) nested),
      List.append_assoc, List.singleton_append, run_disjunction inner (.group opening.val :: stack) (by trivial) ends
        (DepthLimit.allows_of_le (by simp only [Frame.nesting]; omega) nested) admitted]
    exact run_of_take rest (step_closing stack opening.val inner.tree closing)

end

/-- Behind a whole expression the parser stops, before a parenthesis that closes nothing or at the
end of the input. -/
theorem run_complete (tree : Tree) {token : Token} (later : List Token)
    (ends : token.kind = .rightParen ∨ token.kind = .endOfInput) :
    run limit [] (.afterOperand tree) (token :: later) = (.ok tree, token :: later) := by
  have finished : step limit [] (.afterOperand tree) token = .finish tree := by
    simp only [step, continueOperand, Frame.closeConjunction, Move.ofExcept]
    rcases ends with kind | kind <;> simp only [kind, Frame.closeDisjunction, endGroup]
  rw [run, finished]

theorem run_expression (part : Grammar.Disjunction) {token : Token} (later : List Token)
    (ends : token.kind = .rightParen ∨ token.kind = .endOfInput)
    (nested : limit.allows part.nesting = true) (admitted : limit.admits part.tree = true) :
    run limit [] .operand (part.tokens ++ token :: later) = (.ok part.tree, token :: later) := by
  have ahead : Grammar.Ahead (Grammar.endsConjunction · = true) (token :: later) :=
    ⟨token, later, rfl, by rcases ends with kind | kind <;> rw [kind] <;> rfl⟩
  rw [run_disjunction part [] (by trivial) ahead
    (by simpa only [Frame.nesting, Nat.zero_add] using nested) admitted]
  exact run_complete part.tree later ends

/-- A row that begins with its end holds nothing. -/
theorem ofTokens_of_ended {limit : DepthLimit} {tokens : List Token}
    (ended : (tokens.headD (Token.atEnd 0)).kind = .endOfInput) :
    Tree.ofTokens limit tokens = .ok none := by
  have absent : (ahead ⟨tokens, limit⟩).kind = .endOfInput := ended
  rw [Tree.ofTokens, parse, if_pos absent]
  simp only [expectEnd, if_pos absent]
  rfl

end Parser

namespace Grammar

theorem Disjunction.ahead (part : Disjunction) (rest : List Token) :
    Ahead (startsOperand · = true) (part.tokens ++ rest) := by
  obtain ⟨⟨first, conjuncts⟩, disjuncts⟩ := part
  simp only [Disjunction.tokens, Conjunction.tokens, List.append_assoc]
  exact first.ahead _

/-- The parser finds the tree of every derivation that is no deeper than the limit allows. -/
theorem ofTokens_derived {limit : DepthLimit} (part : Disjunction) {ending : Token}
    (ends : ending.kind = .endOfInput) (nested : limit.allows part.nesting = true)
    (admitted : limit.admits part.tree = true) :
    Tree.ofTokens limit (part.tokens ++ [ending]) = .ok (some part.tree) := by
  have read := Parser.run_expression part [] (.inr ends) nested admitted
  obtain ⟨token, later, same, starts⟩ := part.ahead [ending]
  have running : token.kind ≠ .endOfInput := by
    intro kind
    simp [kind, startsOperand, Token.Kind.isLiteral] at starts
  rw [same] at read ⊢
  simp only [Tree.ofTokens, Parser.parse, Parser.ahead, List.headD_cons, if_neg running, read]
  simp [Except.map, Parser.expectEnd, Parser.ahead, ends, bind, Except.bind, pure, Except.pure]

end Grammar

end SearchBox
