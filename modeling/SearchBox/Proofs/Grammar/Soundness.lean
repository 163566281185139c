import SearchBox.Proofs.Grammar.Reading

/-! Every tree that the parser finds has a derivation behind it. What the tokens taken so far amount
to is kept as an invariant: each open frame stands for a part of a derivation that waits for the
operand being read, and the stage for what there is of that operand. -/

namespace SearchBox

theorem DepthLimit.eq_of_check {limit : DepthLimit} {tree found : Tree} {mark : Token}
    (checked : limit.check tree mark = .ok found) : found = tree := by
  unfold check at checked
  split at checked
  · exact (Except.ok.inj checked).symm
  · cases checked

namespace Grammar

/-! Chains that grow at the end, as the parser reads them. -/

def Conjuncts.append : Conjuncts → Option (Mark (.keyword .and)) → Unary → Conjuncts
  | .none, mark, last => .more mark last .none
  | .more first next others, mark, last => .more first next (others.append mark last)

theorem Conjuncts.tokens_append (others : Conjuncts) (mark : Option (Mark (.keyword .and)))
    (last : Unary) : (others.append mark last).tokens =
      others.tokens ++ ((mark.map Subtype.val).toList ++ last.tokens) := by
  match others with
  | .none => simp [Conjuncts.append, Conjuncts.tokens]
  | .more first next others =>
    simp only [Conjuncts.append, Conjuncts.tokens, Conjuncts.tokens_append others,
      List.append_assoc]

theorem Conjuncts.joinedTo_append (others : Conjuncts) (mark : Option (Mark (.keyword .and)))
    (last : Unary) (left : Tree) : (others.append mark last).joinedTo left =
      .joined .and (others.joinedTo left) last.tree := by
  match others with
  | .none => rfl
  | .more first next others =>
    exact Conjuncts.joinedTo_append others mark last (.joined .and left next.tree)

def Disjuncts.append : Disjuncts → Mark (.keyword .or) → Conjunction → Disjuncts
  | .none, mark, last => .more mark last .none
  | .more first next others, mark, last => .more first next (others.append mark last)

theorem Disjuncts.tokens_append (others : Disjuncts) (mark : Mark (.keyword .or))
    (last : Conjunction) :
    (others.append mark last).tokens = others.tokens ++ mark.val :: last.tokens := by
  match others with
  | .none => simp [Disjuncts.append, Disjuncts.tokens]
  | .more first next others =>
    simp only [Disjuncts.append, Disjuncts.tokens, Disjuncts.tokens_append others,
      List.append_assoc, List.cons_append]

theorem Disjuncts.joinedTo_append (others : Disjuncts) (mark : Mark (.keyword .or))
    (last : Conjunction) (left : Tree) : (others.append mark last).joinedTo left =
      .joined .or (others.joinedTo left) last.tree := by
  match others with
  | .none => rfl
  | .more first next others =>
    exact Disjuncts.joinedTo_append others mark last (.joined .or left next.tree)

/-- The tokens `consumed` leave the frames `stack` open, and an operand is to come. The token that a
join is blamed on plays no part. -/
inductive Opens : List Token → List Frame → Prop where
  | start : Opens [] []
  | group {consumed : List Token} {stack : List Frame} (opening : Mark .leftParen)
      (before : Opens consumed stack) :
      Opens (consumed ++ [opening.val]) (.group opening.val :: stack)
  | negation {consumed : List Token} {stack : List Frame} (mark : Mark (.keyword .not))
      (before : Opens consumed stack) :
      Opens (consumed ++ [mark.val]) (.negation mark.val :: stack)
  | conjunct {consumed : List Token} {stack : List Frame} (left : Conjunction)
      (mark : Option (Mark (.keyword .and))) (blamed : Token)
      (base : Frame.OpensConjunction stack) (before : Opens consumed stack) :
      Opens (consumed ++ (left.tokens ++ (mark.map Subtype.val).toList))
        (.join .and left.tree blamed :: stack)
  | disjunct {consumed : List Token} {stack : List Frame} (left : Disjunction)
      (mark : Mark (.keyword .or)) (blamed : Token) (base : Frame.OpensDisjunction stack)
      (before : Opens consumed stack) :
      Opens (consumed ++ (left.tokens ++ [mark.val])) (.join .or left.tree blamed :: stack)

/-- Closing what ends with an operand makes a conjunction of it. -/
theorem Opens.closeConjunction {limit : DepthLimit} {consumed : List Token}
    {stack stack' : List Frame} {tree : Tree} (opens : Opens consumed stack) (last : Unary)
    (closed : Frame.closeConjunction limit stack last.tree = .ok (stack', tree)) :
    ∃ before, ∃ part : Conjunction, Opens before stack' ∧ Frame.OpensConjunction stack' ∧
      consumed ++ last.tokens = before ++ part.tokens ∧ part.tree = tree := by
  induction opens generalizing last with
  | start =>
    cases closed
    exact ⟨[], .mk last .none, .start, trivial, by simp [Conjunction.tokens, Conjuncts.tokens], rfl⟩
  | group opening before =>
    cases closed
    exact ⟨_, .mk last .none, .group opening before, trivial,
      by simp [Conjunction.tokens, Conjuncts.tokens], rfl⟩
  | negation mark before ih =>
    rw [Frame.closeConjunction] at closed
    cases checked : limit.check (last.tree.negated mark.val.span.position) mark.val with
    | error => simp [checked, bind, Except.bind] at closed
    | ok found =>
      obtain rfl := DepthLimit.eq_of_check checked
      simp only [checked, bind, Except.bind] at closed
      obtain ⟨earlier, part, opens, base, same, tree⟩ := ih (.negation mark last) closed
      refine ⟨earlier, part, opens, base, ?_, tree⟩
      rw [← same, Unary.tokens, List.append_assoc, List.singleton_append]
  | @conjunct consumed stack left mark blamed base before _ =>
    rw [Frame.closeConjunction] at closed
    cases checked : limit.check (.joined .and left.tree last.tree) blamed with
    | error => simp [checked, bind, Except.bind] at closed
    | ok found =>
      obtain rfl := DepthLimit.eq_of_check checked
      simp only [checked, bind, Except.bind, pure, Except.pure] at closed
      cases closed
      obtain ⟨first, others⟩ := left
      refine ⟨consumed, .mk first (others.append mark last), before, base, ?_, ?_⟩
      · simp only [Conjunction.tokens, Conjuncts.tokens_append, List.append_assoc]
      · simp only [Conjunction.tree, Conjuncts.joinedTo_append]
  | disjunct left mark blamed base before =>
    cases closed
    exact ⟨_, .mk last .none, .disjunct left mark blamed base before, trivial,
      by simp [Conjunction.tokens, Conjuncts.tokens], rfl⟩

/-- Closing what ends with a conjunction makes a disjunction of it. -/
theorem Opens.closeDisjunction {limit : DepthLimit} {consumed : List Token}
    {stack stack' : List Frame} {tree : Tree} (opens : Opens consumed stack)
    (base : Frame.OpensConjunction stack) (last : Conjunction)
    (closed : Frame.closeDisjunction limit stack last.tree = .ok (stack', tree)) :
    ∃ before, ∃ part : Disjunction, Opens before stack' ∧ Frame.OpensDisjunction stack' ∧
      consumed ++ last.tokens = before ++ part.tokens ∧ part.tree = tree := by
  cases opens with
  | start =>
    cases closed
    exact ⟨[], .mk last .none, .start, trivial, by simp [Disjunction.tokens, Disjuncts.tokens], rfl⟩
  | group opening before =>
    cases closed
    exact ⟨_, .mk last .none, .group opening before, trivial,
      by simp [Disjunction.tokens, Disjuncts.tokens], rfl⟩
  | negation mark before => exact base.elim
  | conjunct left mark blamed _ before => exact base.elim
  | @disjunct consumed stack left mark blamed opening before =>
    rw [Frame.closeDisjunction] at closed
    cases checked : limit.check (.joined .or left.tree last.tree) blamed with
    | error => simp [checked, bind, Except.bind] at closed
    | ok found =>
      obtain rfl := DepthLimit.eq_of_check checked
      simp only [checked, bind, Except.bind, pure, Except.pure] at closed
      cases closed
      obtain ⟨first, others⟩ := left
      refine ⟨consumed, .mk first (others.append mark last), before, opening, ?_, ?_⟩
      · simp only [Disjunction.tokens, Disjuncts.tokens_append, List.append_assoc,
          List.singleton_append]
      · simp only [Disjunction.tree, Disjuncts.joinedTo_append]

/-- The tokens `consumed` end with a field, its colon, and the tokens `body` of its clause. -/
def InClause (consumed : List Token) (stack : List Frame) (field : FieldName)
    (body : List Token) : Prop :=
  ∃ before, ∃ name : Mark .fieldName, ∃ colon : Mark .colon, Opens before stack ∧
    field = .ofToken name.val ∧ consumed = before ++ name.val :: colon.val :: body

/-- What the tokens taken so far amount to at a stage of the parser. -/
def Reached (consumed : List Token) (stack : List Frame) : Stage → Prop
  | .operand => Opens consumed stack
  | .afterOperand tree =>
    ∃ before, ∃ last : Unary, Opens before stack ∧ consumed = before ++ last.tokens ∧
      last.tree = tree
  | .colon field =>
    ∃ before, ∃ name : Mark .fieldName, Opens before stack ∧ field = .ofToken name.val ∧
      consumed = before ++ [name.val]
  | .clause field => InClause consumed stack field []
  | .bound field comparison =>
    ∃ mark : Mark (.range (.bound comparison)), InClause consumed stack field [mark.val]
  | .afterValue field value =>
    ∃ token : ValueToken, value = .ofToken token.val ∧ InClause consumed stack field [token.val]
  | .upperBound field lower =>
    ∃ token : ValueToken, ∃ dots : Mark (.range .span), lower = .ofToken token.val ∧
      InClause consumed stack field [token.val, dots.val]
  | .listOpening field => ∃ word : Mark (.keyword .isIn), InClause consumed stack field [word.val]
  | .listValue field opening values =>
    ∃ word : Mark (.keyword .isIn), opening.kind = .leftParen ∧
      ((values = [] ∧ InClause consumed stack field [word.val, opening]) ∨
        ∃ items : Items, ∃ comma : Mark .comma, values = items.literals.reverse ∧
          InClause consumed stack field
            (word.val :: opening :: (items.tokens ++ [comma.val])))
  | .listSeparator field opening values =>
    ∃ word : Mark (.keyword .isIn), ∃ items : Items, opening.kind = .leftParen ∧
      values = items.literals.reverse ∧
        InClause consumed stack field (word.val :: opening :: items.tokens)

theorem InClause.push {consumed body : List Token} {stack : List Frame} {field : FieldName}
    (clause : InClause consumed stack field body) (token : Token) :
    InClause (consumed ++ [token]) stack field (body ++ [token]) := by
  obtain ⟨before, name, colon, opens, named, same⟩ := clause
  exact ⟨before, name, colon, opens, named, by simp [same]⟩

theorem InClause.complete {consumed : List Token} {stack : List Frame} {field : FieldName}
    (body : Body) (clause : InClause consumed stack field body.tokens) :
    Reached consumed stack
      (.afterOperand (.leaf (Span.upTo field.span.position body.stop) (body.clause field))) := by
  obtain ⟨before, name, colon, opens, rfl, same⟩ := clause
  exact ⟨before, .leaf (.onField name colon body), opens, same, rfl⟩

/-- A value that stands alone behind the colon is a whole clause. -/
theorem Reached.completeValue {consumed : List Token} {stack : List Frame} {field : FieldName}
    {value : Literal} (reached : Reached consumed stack (.afterValue field value)) :
    Reached consumed stack
      (.afterOperand
        (.leaf (Span.upTo field.span.position value.span.stop) (.equals field value))) := by
  obtain ⟨token, rfl, clause⟩ := reached
  exact clause.complete (.equals token)

theorem literal_of_expectLiteral {field : FieldName} {token : Token} {next : Literal → Move}
    {stack : List Frame} {stage : Stage}
    (taken : Parser.expectLiteral field token next = .take stack stage) :
    token.kind.isLiteral = true ∧ next (.ofToken token) = .take stack stage := by
  unfold Parser.expectLiteral at taken
  split at taken
  all_goals first
    | exact ⟨by simp only [‹token.kind = _›, Token.Kind.isLiteral], taken⟩
    | cases taken

theorem Opens.startOperand {limit : DepthLimit} {consumed : List Token}
    {stack stack' : List Frame} {stage : Stage} {token : Token} (opens : Opens consumed stack)
    (taken : Parser.startOperand limit stack token = .take stack' stage) :
    Reached (consumed ++ [token]) stack' stage := by
  unfold Parser.startOperand at taken
  split at taken
  · next kind =>
    unfold Parser.openLevel at taken
    split at taken
    · cases taken
      exact .negation ⟨token, kind⟩ opens
    · cases taken
  · next kind =>
    unfold Parser.openLevel at taken
    split at taken
    · cases taken
      exact .group ⟨token, kind⟩ opens
    · cases taken
  · next kind =>
    cases taken
    exact ⟨consumed, ⟨token, kind⟩, opens, rfl, rfl⟩
  · next kind =>
    cases taken
    exact ⟨consumed, .leaf (.wildcard ⟨token, kind⟩), opens, rfl, rfl⟩
  all_goals
    cases taken
  all_goals
    refine ⟨consumed, .leaf (.term ⟨token, ?_⟩), opens, rfl, rfl⟩
    simp [‹token.kind = _›, Token.Kind.isLiteral]

theorem startOperand_ne_finish {limit : DepthLimit} {stack : List Frame} {token : Token}
    {tree : Tree} : Parser.startOperand limit stack token ≠ .finish tree := by
  unfold Parser.startOperand Parser.openLevel
  split
  all_goals first
    | exact Move.noConfusion
    | split <;> exact Move.noConfusion

/-- The closing parenthesis of a group. -/
theorem Opens.endGroup {consumed : List Token} {stack stack' : List Frame} {stage : Stage}
    {token : Token} (opens : Opens consumed stack) (inner : Disjunction)
    (taken : Parser.endGroup stack inner.tree token = .take stack' stage) :
    Reached (consumed ++ (inner.tokens ++ [token])) stack' stage := by
  unfold Parser.endGroup at taken
  split at taken
  · next opening stack =>
    split at taken
    · next kind =>
      cases taken
      cases opens with
      | @group consumed _ opening before =>
        refine ⟨consumed, .group opening inner ⟨token, kind⟩, before, ?_, rfl⟩
        simp only [Unary.tokens, List.append_assoc, List.singleton_append]
    · cases taken
  · cases taken

theorem Opens.of_endGroup {consumed : List Token} {stack : List Frame} {found tree : Tree}
    {token : Token} (opens : Opens consumed stack) (base : Frame.OpensDisjunction stack)
    (finished : Parser.endGroup stack found token = .finish tree) : consumed = [] ∧ found = tree := by
  unfold Parser.endGroup at finished
  split at finished
  · split at finished <;> cases finished
  · next noGroup =>
    cases opens with
    | start => exact ⟨rfl, Move.finish.inj finished⟩
    | group opening before => exact (noGroup _ _ rfl).elim
    | negation mark before => exact base.elim
    | conjunct left mark blamed _ before => exact base.elim
    | disjunct left mark blamed _ before => exact base.elim

/-- What a token does behind an operand, by the way it goes on. -/
theorem continueOperand_cases {limit : DepthLimit} {stack : List Frame} {tree : Tree}
    {token : Token} {move : Move}
    (moved : Parser.continueOperand limit stack tree token = move)
    (going : (∃ stack' stage, move = .take stack' stage) ∨ ∃ found, move = .finish found) :
    ∃ stack' tree', Frame.closeConjunction limit stack tree = .ok (stack', tree') ∧
      ((token.kind = .keyword .and ∧ move = .take (.join .and tree' token :: stack') .operand) ∨
      (∃ stack'' tree'', Frame.closeDisjunction limit stack' tree' = .ok (stack'', tree'') ∧
        ((token.kind = .keyword .or ∧
            move = .take (.join .or tree'' token :: stack'') .operand) ∨
          ((token.kind = .rightParen ∨ token.kind = .endOfInput) ∧
            move = Parser.endGroup stack'' tree'' token))) ∨
      move = Parser.startOperand limit (.join .and tree' token :: stack') token) := by
  have notRefused (diagnostic : Diagnostic) : move ≠ .refuse diagnostic := by
    rintro rfl
    rcases going with ⟨_, _, same⟩ | ⟨_, same⟩ <;> cases same
  unfold Parser.continueOperand at moved
  cases closed : Frame.closeConjunction limit stack tree with
  | error diagnostic =>
    rw [closed] at moved
    exact (notRefused diagnostic moved.symm).elim
  | ok pair =>
    obtain ⟨stack', tree'⟩ := pair
    refine ⟨stack', tree', rfl, ?_⟩
    simp only [closed, Move.ofExcept] at moved
    cases closed' : Frame.closeDisjunction limit stack' tree' with
    | error diagnostic =>
      simp only [closed'] at moved
      split at moved
      · next kind => exact .inl ⟨kind, moved.symm⟩
      · exact (notRefused diagnostic moved.symm).elim
      · exact (notRefused diagnostic moved.symm).elim
      · exact (notRefused diagnostic moved.symm).elim
      · exact .inr (.inr moved.symm)
    | ok pair =>
      obtain ⟨stack'', tree''⟩ := pair
      simp only [closed'] at moved
      split at moved
      · next kind => exact .inl ⟨kind, moved.symm⟩
      · next kind => exact .inr (.inl ⟨stack'', tree'', rfl, .inl ⟨kind, moved.symm⟩⟩)
      · next kind => exact .inr (.inl ⟨stack'', tree'', rfl, .inr ⟨.inl kind, moved.symm⟩⟩)
      · next kind => exact .inr (.inl ⟨stack'', tree'', rfl, .inr ⟨.inr kind, moved.symm⟩⟩)
      · exact .inr (.inr moved.symm)

theorem Reached.continueOperand {limit : DepthLimit} {consumed : List Token}
    {stack stack' : List Frame} {tree : Tree} {stage : Stage} {token : Token}
    (reached : Reached consumed stack (.afterOperand tree))
    (taken : Parser.continueOperand limit stack tree token = .take stack' stage) :
    Reached (consumed ++ [token]) stack' stage := by
  obtain ⟨before, last, opens, rfl, rfl⟩ := reached
  obtain ⟨inner, found, closed, moves⟩ := continueOperand_cases taken (.inl ⟨_, _, rfl⟩)
  obtain ⟨earlier, left, opens, base, same, rfl⟩ := opens.closeConjunction last closed
  rw [same, List.append_assoc]
  rcases moves with ⟨kind, move⟩ | ⟨outer, found, closed, moves⟩ | move
  · cases move
    exact .conjunct left (some ⟨token, kind⟩) token base opens
  · obtain ⟨earliest, whole, opens, base, same, rfl⟩ := opens.closeDisjunction base left closed
    rw [← List.append_assoc, same, List.append_assoc]
    rcases moves with ⟨kind, move⟩ | ⟨_, move⟩
    · cases move
      exact .disjunct whole ⟨token, kind⟩ token base opens
    · exact opens.endGroup whole move.symm
  · have joined := Opens.conjunct left none token base opens
    have begun := joined.startOperand move.symm
    simpa only [Option.map_none, Option.toList_none, List.append_nil, List.append_assoc]
      using begun

theorem Reached.finish {limit : DepthLimit} {consumed : List Token} {stack : List Frame}
    {found tree : Tree} {token : Token} (reached : Reached consumed stack (.afterOperand found))
    (finished : Parser.continueOperand limit stack found token = .finish tree) :
    ∃ part : Disjunction, part.tokens = consumed ∧ part.tree = tree ∧
      (token.kind = .rightParen ∨ token.kind = .endOfInput) := by
  obtain ⟨before, last, opens, rfl, rfl⟩ := reached
  obtain ⟨inner, found, closed, moves⟩ := continueOperand_cases finished (.inr ⟨_, rfl⟩)
  obtain ⟨earlier, left, opens, base, same, rfl⟩ := opens.closeConjunction last closed
  rcases moves with ⟨_, move⟩ | ⟨outer, found, closed, moves⟩ | move
  · cases move
  · obtain ⟨earliest, whole, opens, base, same', rfl⟩ := opens.closeDisjunction base left closed
    rcases moves with ⟨_, move⟩ | ⟨kind, move⟩
    · cases move
    · obtain ⟨rfl, found⟩ := opens.of_endGroup base move.symm
      exact ⟨whole, by rw [same, same', List.nil_append], found, kind⟩
  · exact (startOperand_ne_finish move.symm).elim

/-- One token more keeps what the tokens amount to. -/
theorem Reached.step {limit : DepthLimit} {consumed : List Token} {stack stack' : List Frame}
    {stage stage' : Stage} {token : Token} (reached : Reached consumed stack stage)
    (taken : Parser.step limit stack stage token = .take stack' stage') :
    Reached (consumed ++ [token]) stack' stage' := by
  cases stage with
  | operand => exact Opens.startOperand reached taken
  | afterOperand tree => exact Reached.continueOperand reached taken
  | colon field =>
    obtain ⟨before, name, opens, rfl, rfl⟩ := reached
    rw [Parser.step] at taken
    split at taken
    · next kind =>
      cases taken
      exact ⟨before, name, ⟨token, kind⟩, opens, rfl, by simp⟩
    · cases taken
  | clause field =>
    simp only [Parser.step] at taken
    split at taken
    · next kind =>
      cases taken
      exact ⟨⟨token, kind⟩, reached.push token⟩
    · cases taken
    · next kind =>
      cases taken
      exact ⟨⟨token, kind⟩, reached.push token⟩
    · obtain ⟨literal, taken⟩ := literal_of_expectLiteral taken
      cases taken
      exact ⟨⟨token, literal⟩, rfl, reached.push token⟩
  | bound field comparison =>
    obtain ⟨mark, clause⟩ := reached
    rw [Parser.step] at taken
    obtain ⟨literal, taken⟩ := literal_of_expectLiteral taken
    cases taken
    exact (clause.push token).complete (.bound comparison mark ⟨token, literal⟩)
  | afterValue field value =>
    rw [Parser.step] at taken
    split at taken
    · next kind =>
      cases taken
      obtain ⟨low, rfl, clause⟩ := reached
      exact ⟨low, ⟨token, kind⟩, rfl, clause.push token⟩
    · exact Reached.continueOperand (Reached.completeValue reached) taken
  | upperBound field lower =>
    obtain ⟨low, dots, rfl, clause⟩ := reached
    rw [Parser.step] at taken
    obtain ⟨literal, taken⟩ := literal_of_expectLiteral taken
    cases taken
    exact (clause.push token).complete (.between low dots ⟨token, literal⟩)
  | listOpening field =>
    obtain ⟨word, clause⟩ := reached
    rw [Parser.step] at taken
    split at taken
    · next kind =>
      cases taken
      exact ⟨word, kind, .inl ⟨rfl, clause.push token⟩⟩
    · cases taken
  | listValue field opening values =>
    obtain ⟨word, kind, read⟩ := reached
    rw [Parser.step] at taken
    split at taken
    · cases taken
    · obtain ⟨literal, taken⟩ := literal_of_expectLiteral taken
      cases taken
      rcases read with ⟨rfl, clause⟩ | ⟨items, comma, rfl, clause⟩
      · exact ⟨word, ⟨⟨token, literal⟩, []⟩, kind, rfl, clause.push token⟩
      · refine ⟨word, items.append comma ⟨token, literal⟩, kind, ?_, ?_⟩
        · rw [Items.literals_append, List.reverse_append, List.reverse_singleton,
            List.singleton_append]
        · simpa only [Items.tokens_append, List.cons_append, List.append_assoc,
            List.nil_append] using clause.push token
  | listSeparator field opening values =>
    obtain ⟨word, items, kind, rfl, clause⟩ := reached
    simp only [Parser.step] at taken
    split at taken
    · next comma =>
      cases taken
      refine ⟨word, kind, .inr ⟨items, ⟨token, comma⟩, rfl, ?_⟩⟩
      simpa only [List.cons_append] using clause.push token
    · next closing =>
      cases taken
      rw [List.reverse_reverse]
      exact (clause.push token).complete (.list word ⟨opening, kind⟩ items ⟨token, closing⟩)
    · cases taken

theorem expectLiteral_ne_finish {field : FieldName} {token : Token} {tree : Tree}
    {next : Literal → Move} (goesOn : ∀ value, next value ≠ .finish tree) :
    Parser.expectLiteral field token next ≠ .finish tree := by
  unfold Parser.expectLiteral
  split
  all_goals first
    | exact goesOn _
    | exact Move.noConfusion

/-- The parser ends only behind a whole expression. -/
theorem Reached.of_finish {limit : DepthLimit} {consumed : List Token} {stack : List Frame}
    {stage : Stage} {token : Token} {tree : Tree} (reached : Reached consumed stack stage)
    (finished : Parser.step limit stack stage token = .finish tree) :
    ∃ part : Disjunction, part.tokens = consumed ∧ part.tree = tree ∧
      (token.kind = .rightParen ∨ token.kind = .endOfInput) := by
  cases stage with
  | operand => exact (startOperand_ne_finish finished).elim
  | afterOperand found => exact Reached.finish reached finished
  | afterValue field value =>
    rw [Parser.step] at finished
    split at finished
    · cases finished
    · exact Reached.finish (Reached.completeValue reached) finished
  | colon field =>
    rw [Parser.step] at finished
    split at finished <;> cases finished
  | listOpening field =>
    rw [Parser.step] at finished
    split at finished <;> cases finished
  | clause field =>
    simp only [Parser.step] at finished
    split at finished
    · cases finished
    · cases finished
    · cases finished
    · exact (expectLiteral_ne_finish (fun _ => Move.noConfusion) finished).elim
  | bound field comparison =>
    rw [Parser.step] at finished
    exact (expectLiteral_ne_finish (fun _ => Move.noConfusion) finished).elim
  | upperBound field lower =>
    rw [Parser.step] at finished
    exact (expectLiteral_ne_finish (fun _ => Move.noConfusion) finished).elim
  | listValue field opening values =>
    rw [Parser.step] at finished
    split at finished
    · cases finished
    · exact (expectLiteral_ne_finish (fun _ => Move.noConfusion) finished).elim
  | listSeparator field opening values =>
    simp only [Parser.step] at finished
    split at finished <;> cases finished

/-- A run that finds a tree has taken the tokens of a derivation of it. -/
theorem Reached.run {limit : DepthLimit} {consumed tokens rest : List Token} {stack : List Frame}
    {stage : Stage} {tree : Tree} (reached : Reached consumed stack stage)
    (found : Parser.run limit stack stage tokens = (.ok tree, rest)) :
    ∃ part : Disjunction, ∃ token later, part.tokens ++ rest = consumed ++ tokens ∧
      part.tree = tree ∧ rest = token :: later ∧
      (token.kind = .rightParen ∨ token.kind = .endOfInput) := by
  induction tokens generalizing consumed stack stage with
  | nil => cases congrArg Prod.fst found
  | cons token later ih =>
    rw [Parser.run] at found
    split at found
    · next stack' stage' taken =>
      obtain ⟨part, next, after, same, made⟩ := ih (reached.step taken) found
      exact ⟨part, next, after, by rw [same, List.append_assoc, List.singleton_append], made⟩
    · next tree' finished =>
      cases found
      obtain ⟨part, same, made, ends⟩ := reached.of_finish finished
      exact ⟨part, token, later, by rw [same], made, rfl, ends⟩
    · cases congrArg Prod.fst found
    · cases congrArg Prod.fst found

theorem run_of_ofTokens {limit : DepthLimit} {tokens : List Token} {tree : Tree}
    (found : Tree.ofTokens limit tokens = .ok (some tree)) :
    ∃ rest, Parser.run limit [] .operand tokens = (.ok tree, rest) ∧
      (rest.headD (Token.atEnd 0)).kind = .endOfInput := by
  rw [Tree.ofTokens, Parser.parse] at found
  split at found
  · next absent =>
    rw [Parser.expectEnd, if_pos absent] at found
    cases found
  · cases run : Parser.run limit [] .operand tokens with
    | mk outcome rest =>
      simp only [run, Parser.expectEnd, Parser.ahead] at found
      cases outcome with
      | error => cases found
      | ok first =>
        by_cases ended : (rest.headD (Token.atEnd 0)).kind = .endOfInput
        · simp only [if_pos ended] at found
          cases found
          exact ⟨rest, rfl, ended⟩
        · simp only [if_neg ended] at found
          cases found

/-- A tree that is found for a whole text has a derivation of all its tokens. -/
theorem derived_of_ofTokens {limit : DepthLimit} {body : List Token} {ending : Token} {tree : Tree}
    (inside : ∀ token ∈ body, token.kind ≠ .endOfInput)
    (found : Tree.ofTokens limit (body ++ [ending]) = .ok (some tree)) :
    ∃ part : Disjunction, part.tokens = body ∧ part.tree = tree := by
  obtain ⟨rest, run, ended⟩ := run_of_ofTokens found
  have fresh : Reached [] [] .operand := Opens.start
  obtain ⟨part, token, later, same, made, rfl, _⟩ := fresh.run run
  refine ⟨part, ?_, made⟩
  rcases List.eq_nil_or_concat later with rfl | ⟨middle, last, rfl⟩
  · exact List.append_inj_left' same rfl
  · have whole : (part.tokens ++ token :: middle) ++ [last] = body ++ [ending] := by
      simpa using same
    have cut : part.tokens ++ token :: middle = body := List.append_inj_left' whole rfl
    exact (inside token (cut ▸ by simp) ended).elim

end Grammar

end SearchBox
