import SearchBox.Proofs.Grammar.Descent

/-! The recursive descent follows the parser. Started in front of the same tokens, with as much open as
there are groups and negations on the stack, each rule returns: it is refused where the parser is, with
the same report, or it reads a tree and the parser stands behind that tree with the stack as it was. -/

namespace SearchBox

namespace Parser

variable {limit : DepthLimit} {stack stack' : List Frame} {stage stage' : Stage} {token : Token}
  {diagnostic : Diagnostic}

theorem run_of_refuse (later : List Token)
    (refused : step limit stack stage token = .refuse diagnostic) :
    run limit stack stage (token :: later) = (.error diagnostic, token :: later) := by
  rw [run, refused]

theorem run_of_refuseAfter (later : List Token)
    (refused : step limit stack stage token = .refuseAfter diagnostic) :
    run limit stack stage (token :: later) = (.error diagnostic, pass token later) := by
  rw [run, refused]

/-- Where a tree is checked when the parser goes on, it goes on with the tree, or it refuses the query
in front of the next token. -/
def resumed (limit : DepthLimit) (stack : List Frame) (rest : List Token) :
    Except Diagnostic Tree → Except Diagnostic Tree × List Token
  | .ok tree => run limit stack (.afterOperand tree) rest
  | .error diagnostic => (.error diagnostic, rest)

variable {rest : List Token}

/-- Behind the operand of a negation the tree of the negation is checked. -/
theorem run_negated (stack : List Frame) (mark : Token) (inner : Tree) (more : rest ≠ []) :
    run limit (.negation mark :: stack) (.afterOperand inner) rest =
      resumed limit stack rest (limit.check (inner.negated mark.span.position) mark) := by
  obtain ⟨token, later, rfl⟩ := List.exists_cons_of_ne_nil more
  cases checked : limit.check (inner.negated mark.span.position) mark with
  | error diagnostic =>
    apply run_of_refuse
    simp only [step, continueOperand, Frame.closeConjunction, checked]
    rfl
  | ok negated =>
    apply run_congr
    simp only [step, continueOperand, Frame.closeConjunction, checked]
    rfl

/-- Behind the right operand of a conjunction the tree of the two is checked. -/
theorem run_conjoined (opens : Frame.OpensConjunction stack) (left right : Tree) (mark : Token)
    (more : rest ≠ []) :
    run limit (.join .and left mark :: stack) (.afterOperand right) rest =
      resumed limit stack rest (limit.check (.joined .and left right) mark) := by
  obtain ⟨token, later, rfl⟩ := List.exists_cons_of_ne_nil more
  cases checked : limit.check (.joined .and left right) mark with
  | error diagnostic =>
    apply run_of_refuse
    simp only [step, continueOperand, Frame.closeConjunction, checked]
    rfl
  | ok joined =>
    apply run_congr
    simp only [step, continueOperand, Frame.closeConjunction, checked,
      Frame.closeConjunction_of_opens limit joined opens]
    rfl

/-- Behind the right operand of a disjunction the tree of the two is checked, once no conjunction goes
on. -/
theorem run_disjoined (opens : Frame.OpensDisjunction stack) (left right : Tree) (mark : Token)
    (ends : Grammar.Ahead (Grammar.endsConjunction · = true) rest) :
    run limit (.join .or left mark :: stack) (.afterOperand right) rest =
      resumed limit stack rest (limit.check (.joined .or left right) mark) := by
  obtain ⟨token, later, rfl, ends⟩ := ends
  have still := Frame.closeConjunction_of_opens limit right
    (show Frame.OpensConjunction (.join .or left mark :: stack) from trivial)
  cases checked : limit.check (.joined .or left right) mark with
  | error diagnostic =>
    have refused : Frame.closeDisjunction limit (.join .or left mark :: stack) right =
        .error diagnostic := by
      rw [Frame.closeDisjunction, checked]
      rfl
    apply run_of_refuse
    simp only [step, continueOperand, still, Move.ofExcept, refused]
    split <;> simp_all [Grammar.endsConjunction]
  | ok joined =>
    have closed : Frame.closeDisjunction limit (.join .or left mark :: stack) right =
        .ok (stack, joined) := by
      rw [Frame.closeDisjunction, checked]
      rfl
    apply run_congr
    simp only [step, continueOperand, still, Move.ofExcept, closed,
      Frame.closeConjunction_of_opens limit joined opens.opensConjunction,
      Frame.closeDisjunction_of_opens limit joined opens]
    split <;> simp_all [Grammar.endsConjunction]

/-- A token that does not end a conjunction goes on with it: a join is opened, behind the word `AND` or
in front of the next operand. -/
theorem run_continued (limit : DepthLimit) (opens : Frame.OpensConjunction stack) (left : Tree)
    {token : Token} (goesOn : Grammar.endsConjunction token.kind = false) (later : List Token) :
    run limit stack (.afterOperand left) (token :: later) =
      run limit (.join .and left token :: stack) .operand
        (if token.kind = .keyword .and then later else token :: later) := by
  split
  · next word => exact run_of_take later (step_and left ⟨token, word⟩ opens)
  · next noWord =>
    apply run_congr
    simp only [step, continueOperand, Frame.closeConjunction_of_opens limit left opens,
      Move.ofExcept]
    split <;> simp_all [Grammar.endsConjunction]

/-- The end of the input where a group is open. -/
theorem step_unclosed (stack : List Frame) (opening : Token) (tree : Tree)
    (ends : Grammar.endsExpression token.kind = true) (noClosing : token.kind ≠ .rightParen) :
    step limit (.group opening :: stack) (.afterOperand tree) token =
      .refuse ((Problem.unclosedGroup opening.span.position token).report token.span) := by
  have opens : Frame.OpensDisjunction (.group opening :: stack) := trivial
  have ended : token.kind = .endOfInput := by
    unfold Grammar.endsExpression at ends
    split at ends
    · next closing => exact (noClosing closing).elim
    · next ended => exact ended
    · cases ends
  simp only [step, continueOperand,
    Frame.closeConjunction_of_opens limit tree opens.opensConjunction,
    Frame.closeDisjunction_of_opens limit tree opens, Move.ofExcept, ended, endGroup,
    reduceCtorEq, if_false]

end Parser

namespace Cursor

variable {cursor middle later : Cursor} {stack stack' : List Frame} {stage stage' : Stage}
  {diagnostic : Diagnostic}

/-! What one token does to the parser, told of a cursor. -/

theorem Stands.run_of_take (stands : cursor.Stands)
    (taken : Parser.step cursor.limit stack stage cursor.ahead = .take stack' stage') :
    Parser.run cursor.limit stack stage cursor.rest =
        Parser.run cursor.limit stack' stage' cursor.advance.rest ∧
      cursor.index < cursor.advance.index := by
  have running : cursor.ahead.kind ≠ .endOfInput := fun ends =>
    Parser.step_ne_take_of_ends ends taken
  have moved : cursor.advance = { cursor with index := cursor.index + 1 } := if_neg running
  rw [stands.rest_eq, Parser.run_of_take _ taken, moved]
  exact ⟨rfl, Nat.lt_succ_self _⟩

theorem Stands.run_of_refuse (stands : cursor.Stands)
    (refused : Parser.step cursor.limit stack stage cursor.ahead = .refuse diagnostic) :
    Parser.run cursor.limit stack stage cursor.rest = (.error diagnostic, cursor.rest) := by
  rw [stands.rest_eq, Parser.run_of_refuse _ refused]

theorem Stands.run_of_refuseAfter (stands : cursor.Stands)
    (refused : Parser.step cursor.limit stack stage cursor.ahead = .refuseAfter diagnostic) :
    Parser.run cursor.limit stack stage cursor.rest =
      (.error diagnostic, cursor.advance.rest) := by
  rw [stands.rest_eq, Parser.run_of_refuseAfter _ refused, stands.pass_ahead]

/-- The reading returns, and comes to what the parser comes to that stands with the stack in the stage
before the same tokens. Where it has read a tree, it is at `least` or further on, the parser stands
behind the tree, and the token there is of the given kinds. -/
inductive Follows (cursor : Cursor) (stack : List Frame) (stage : Stage) (least : Nat)
    (ends : Token.Kind → Prop) : Option (Outcome Tree) → Prop where
  | refused {diagnostic : Diagnostic} {later : Cursor} (onward : cursor.Onward later)
      (ran : Parser.run cursor.limit stack stage cursor.rest = (.error diagnostic, later.rest)) :
      Follows cursor stack stage least ends (some (.error diagnostic, later))
  | read {tree : Tree} {later : Cursor} (onward : cursor.Onward later)
      (ran : Parser.run cursor.limit stack stage cursor.rest =
        Parser.run cursor.limit stack (.afterOperand tree) later.rest)
      (reached : least ≤ later.index) (stops : ends later.ahead.kind) :
      Follows cursor stack stage least ends (some (.ok tree, later))

variable {least least' : Nat} {ends : Token.Kind → Prop} {outcome : Option (Outcome Tree)}

/-- The reading may start further back, where the parser comes to the same stack. -/
theorem Follows.behind (follows : middle.Follows stack stage' least ends outcome)
    (onward : cursor.Onward middle)
    (ran : Parser.run cursor.limit stack stage cursor.rest =
      Parser.run cursor.limit stack stage' middle.rest)
    (within : least' ≤ least) : cursor.Follows stack stage least' ends outcome := by
  have same := onward.limit
  cases follows with
  | refused onward' ran' =>
    rw [same] at ran'
    exact .refused (onward.trans onward') (ran.trans ran')
  | read onward' ran' reached stops =>
    rw [same] at ran'
    exact .read (onward.trans onward') (ran.trans ran') (Nat.le_trans within reached) stops

/-- A token is taken and the reading goes on behind it. -/
theorem Follows.onward (follows : cursor.advance.Follows stack stage' least ends outcome)
    (stands : cursor.Stands)
    (taken : Parser.step cursor.limit stack stage cursor.ahead = .take stack stage')
    (within : least' ≤ least) : cursor.Follows stack stage least' ends outcome :=
  follows.behind stands.onward_advance (stands.run_of_take taken).1 within

/-- A token completes the operand. -/
theorem Stands.follows_take {tree : Tree} (stands : cursor.Stands)
    (taken : Parser.step cursor.limit stack stage cursor.ahead =
      .take stack (.afterOperand tree)) :
    cursor.Follows stack stage (cursor.index + 1) (fun _ => True)
      (some (.ok tree, cursor.advance)) := by
  obtain ⟨ran, moved⟩ := stands.run_of_take taken
  exact .read stands.onward_advance ran moved trivial

theorem Stands.follows_refuse (stands : cursor.Stands)
    (refused : Parser.step cursor.limit stack stage cursor.ahead = .refuse diagnostic) :
    cursor.Follows stack stage least ends (some (.error diagnostic, cursor)) :=
  .refused (.refl stands) (stands.run_of_refuse refused)

theorem Stands.follows_refuseAfter (stands : cursor.Stands)
    (refused : Parser.step cursor.limit stack stage cursor.ahead = .refuseAfter diagnostic) :
    cursor.Follows stack stage least ends (some (.error diagnostic, cursor.advance)) :=
  .refused stands.onward_advance (stands.run_of_refuseAfter refused)

/-! The clauses of a field. -/

/-- A literal is taken where the parser takes one, and refused where it refuses the token. -/
theorem literal_cases (field : FieldName) (cursor : Cursor) :
    (∃ value, cursor.literal field = (.ok value, cursor.advance) ∧
        ∀ next, Parser.expectLiteral field cursor.ahead next = next value) ∨
      ∃ diagnostic, cursor.literal field = (.error diagnostic, cursor) ∧
        ∀ next, Parser.expectLiteral field cursor.ahead next = .refuse diagnostic := by
  cases kind : cursor.ahead.kind <;>
    simp [literal, Parser.expectLiteral, kind, Token.Kind.isLiteral]

/-- The items of a list, from behind the ones that are already read. -/
theorem Stands.follows_items {cursor : Cursor} (stands : cursor.Stands) (stack : List Frame)
    (field : FieldName) (opening : Token) (values : List Literal)
    (measured : values = [] →
      stretch? opening cursor.ahead = some (Parser.emptyListSpan opening cursor.ahead)) :
    cursor.Follows stack (.listValue field opening values.reverse) (cursor.index + 1)
      (fun _ => True) (items field opening values cursor) := by
  rw [items]
  by_cases empty : cursor.ahead.kind = .rightParen ∧ values = []
  · simp only [if_pos empty, measured empty.2]
    exact stands.follows_refuse (by simp [Parser.step, empty])
  · have expects : Parser.step cursor.limit stack (.listValue field opening values.reverse)
        cursor.ahead = Parser.expectLiteral field cursor.ahead fun value =>
          .take stack (.listSeparator field opening (value :: values.reverse)) := by
      simp only [Parser.step, List.reverse_eq_nil_iff, if_neg empty]
    rcases literal_cases field cursor with ⟨value, read, takes⟩ | ⟨diagnostic, read, refuses⟩
    · simp only [if_neg empty, read]
      have taken := expects.trans (takes _)
      have moved := (stands.run_of_take taken).2
      have behind := stands.advance
      have snoc : value :: values.reverse = (values ++ [value]).reverse := by simp
      rw [snoc] at taken
      split
      · next comma =>
        have taken' : Parser.step cursor.advance.limit stack
            (.listSeparator field opening (values ++ [value]).reverse) cursor.advance.ahead =
              .take stack (.listValue field opening (values ++ [value]).reverse) := by
          simp only [Parser.step, comma]
        have moved' := (behind.run_of_take taken').2
        have onward := stands.onward_advance.trans behind.onward_advance
        have shorter := onward.remaining_lt (Nat.lt_trans moved moved')
        have later := (onward.stands stands).follows_items stack field opening
          (values ++ [value]) (by simp)
        exact (later.onward behind taken' (Nat.le_refl _)).onward stands taken (by omega)
      · next closing =>
        have taken' : Parser.step cursor.advance.limit stack
            (.listSeparator field opening (values ++ [value]).reverse) cursor.advance.ahead =
              .take stack (.afterOperand (onField field cursor.advance.ahead.span.stop
                (.member field (values ++ [value])))) := by
          simp only [Parser.step, closing, List.reverse_reverse, Parser.completeClause, onField]
        exact (behind.follows_take taken').onward stands taken (by omega)
      · next noComma noClosing =>
        have refused : Parser.step cursor.advance.limit stack
            (.listSeparator field opening (values ++ [value]).reverse) cursor.advance.ahead =
              .refuseAfter ((Problem.listNotContinued cursor.advance.ahead).report
                cursor.advance.ahead.span) := by
          simp only [Parser.step]
        exact (behind.follows_refuseAfter refused).onward stands taken (Nat.le_refl _)
    · simp only [if_neg empty, read]
      exact stands.follows_refuse (expects.trans (refuses _))
termination_by cursor.remaining

theorem Stands.follows_list (stands : cursor.Stands) (stack : List Frame) (field : FieldName)
    (listed : cursor.ahead.kind = .keyword .isIn) :
    cursor.Follows stack (.clause field) (cursor.index + 1) (fun _ => True)
      (list field cursor) := by
  have taken : Parser.step cursor.limit stack (.clause field) cursor.ahead =
      .take stack (.listOpening field) := by
    simp only [Parser.step, listed]
  have behind := stands.advance
  have moved := (stands.run_of_take taken).2
  rw [list]
  split
  · next opened =>
    have taken' : Parser.step cursor.advance.limit stack (.listOpening field)
        cursor.advance.ahead = .take stack (.listValue field cursor.advance.ahead []) := by
      simp only [Parser.step, if_pos opened]
    have inside := behind.advance
    have later := inside.follows_items stack field cursor.advance.ahead []
      fun _ => behind.stretch?_eq behind.onward_advance
    have moved' := (behind.run_of_take taken').2
    exact (later.onward behind taken' (Nat.le_refl _)).onward stands taken (by omega)
  · next notOpened =>
    have refused : Parser.step cursor.advance.limit stack (.listOpening field)
        cursor.advance.ahead = .refuseAfter
          ((Problem.listNotOpened cursor.advance.ahead).report cursor.advance.ahead.span) := by
      simp only [Parser.step, if_neg notOpened]
    exact (behind.follows_refuseAfter refused).onward stands taken (Nat.le_refl _)

/-- A literal that completes the clause. -/
theorem Stands.follows_literal (stands : cursor.Stands) (stack : List Frame) (stage : Stage)
    (field : FieldName)
    (make : Literal → Clause FieldName Literal)
    (expects : Parser.step cursor.limit stack stage cursor.ahead =
      Parser.expectLiteral field cursor.ahead fun value =>
        .take stack (Parser.completeClause field value.span.stop (make value))) :
    cursor.Follows stack stage (cursor.index + 1) (fun _ => True)
      (some ((cursor.literal field).1.map fun value => onField field value.span.stop (make value),
        (cursor.literal field).2)) := by
  rcases literal_cases field cursor with ⟨value, read, takes⟩ | ⟨diagnostic, read, refuses⟩
  · rw [read]
    exact stands.follows_take (expects.trans (takes _))
  · rw [read]
    exact stands.follows_refuse (expects.trans (refuses _))

theorem Stands.follows_bound (stands : cursor.Stands) (stack : List Frame) (field : FieldName)
    {comparison : Comparison} (marked : cursor.ahead.kind = .range (.bound comparison)) :
    cursor.Follows stack (.clause field) (cursor.index + 1) (fun _ => True)
      (some (bound field comparison cursor)) := by
  have taken : Parser.step cursor.limit stack (.clause field) cursor.ahead =
      .take stack (.bound field comparison) := by
    simp only [Parser.step, marked]
  have behind := stands.advance
  have later := behind.follows_literal stack (.bound field comparison) field
    (fun value => .range field (.bound comparison) value none) rfl
  have moved := (stands.run_of_take taken).2
  exact later.onward stands taken (by omega)

theorem Stands.follows_valueOrRange (stands : cursor.Stands) (stack : List Frame)
    (field : FieldName)
    (expects : Parser.step cursor.limit stack (.clause field) cursor.ahead =
      Parser.expectLiteral field cursor.ahead fun value => .take stack (.afterValue field value)) :
    cursor.Follows stack (.clause field) (cursor.index + 1) (fun _ => True)
      (some (valueOrRange field cursor)) := by
  rw [valueOrRange]
  rcases literal_cases field cursor with ⟨value, read, takes⟩ | ⟨diagnostic, read, refuses⟩
  · have taken := expects.trans (takes _)
    have behind := stands.advance
    have moved := (stands.run_of_take taken).2
    simp only [read]
    split
    · next dots =>
      have taken' : Parser.step cursor.advance.limit stack (.afterValue field value)
          cursor.advance.ahead = .take stack (.upperBound field value) := by
        simp only [Parser.step, if_pos dots]
      have upper := behind.advance.follows_literal stack
        (.upperBound field value) field (fun upper => .range field .between value (some upper)) rfl
      have moved' := (behind.run_of_take taken').2
      exact (upper.onward behind taken' (Nat.le_refl _)).onward stands taken (by omega)
    · next noDots =>
      have ahead : Grammar.NoDots cursor.advance.rest := ⟨_, _, behind.rest_eq, noDots⟩
      refine .read stands.onward_advance ?_ moved trivial
      rw [(stands.run_of_take taken).1, Parser.run_afterValue _ _ _ ahead]
      rfl
  · simp only [read]
    exact stands.follows_refuse (expects.trans (refuses _))

/-- A clause on a field, from the name of the field on. -/
theorem Stands.follows_clause (stands : cursor.Stands) (stack : List Frame)
    (named : cursor.ahead.kind = .fieldName) :
    cursor.Follows stack .operand (cursor.index + 1) (fun _ => True) (clause cursor) := by
  have taken : Parser.step cursor.limit stack .operand cursor.ahead =
      .take stack (.colon (.ofToken cursor.ahead)) := by
    simp only [Parser.step, Parser.startOperand, named]
  have moved := (stands.run_of_take taken).2
  have behind := stands.advance
  rw [clause]
  split
  · next parted =>
    have taken' : Parser.step cursor.advance.limit stack (.colon (.ofToken cursor.ahead))
        cursor.advance.ahead = .take stack (.clause (.ofToken cursor.ahead)) := by
      simp only [Parser.step, if_pos parted]
    have moved' := (behind.run_of_take taken').2
    have inside := behind.advance
    have onward {outcome : Option (Outcome Tree)}
        (later : cursor.advance.advance.Follows stack (.clause (.ofToken cursor.ahead))
          (cursor.advance.advance.index + 1) (fun _ => True) outcome) :
        cursor.Follows stack .operand (cursor.index + 1) (fun _ => True) outcome :=
      (later.onward behind taken' (Nat.le_refl _)).onward stands taken (by omega)
    dsimp only
    split
    · next listed => exact onward (inside.follows_list stack _ listed)
    · next dots =>
      exact onward (inside.follows_refuse (by simp only [Parser.step, dots]))
    · next comparison marked => exact onward (inside.follows_bound stack _ marked)
    · next noList noDots noBound =>
      exact onward (inside.follows_valueOrRange stack _ (by simp only [Parser.step]))
  · next notParted =>
    have refused : Parser.step cursor.advance.limit stack (.colon (.ofToken cursor.ahead))
        cursor.advance.ahead = .refuseAfter (Problem.unexpected cursor.advance.ahead) := by
      simp only [Parser.step, if_neg notParted]
    exact (behind.follows_refuseAfter refused).onward stands taken (Nat.le_refl _)

/-- What is read inside a group or a negation, told of the cursor in front of it: the count is the same
again on the way out. -/
theorem Onward.leave (stands : cursor.Stands) (inside : cursor.advance.enter.Onward later) :
    cursor.Onward later.leave := by
  have onward := stands.onward_advance
  refine ⟨inside.row.trans onward.row, ?_, inside.limit.trans onward.limit,
    Nat.le_trans onward.forth inside.forth, onward.row ▸ inside.within⟩
  have level := inside.level
  rw [Cursor.leave, level]
  exact onward.level

theorem Stands.enter (stands : cursor.Stands) : cursor.enter.Stands :=
  ⟨stands.ended, stands.ordered, stands.within⟩

/-- Where a conjunction goes on, the parser opens a join and waits for the next operand. -/
theorem Stands.exists_continued (stands : cursor.Stands) (left : Tree)
    (opens : Frame.OpensConjunction stack)
    (goesOn : Grammar.endsConjunction cursor.ahead.kind = false) :
    ∃ middle, (if cursor.ahead.kind = .keyword .and then cursor.advance else cursor) = middle ∧
      cursor.Onward middle ∧
      Parser.run cursor.limit stack (.afterOperand left) cursor.rest =
        Parser.run cursor.limit (.join .and left cursor.ahead :: stack) .operand middle.rest := by
  have ran := Parser.run_continued cursor.limit opens left goesOn
    (cursor.row.drop (cursor.index + 1))
  refine ⟨_, rfl, ?_, ?_⟩
  · split
    · exact stands.onward_advance
    · exact .refl stands
  · rw [stands.rest_eq, ran]
    split
    · next word =>
      rw [← stands.pass_ahead, Parser.pass, if_neg (by simp [word])]
    · rw [stands.rest_eq]

/-! Each rule follows the parser on every stack that it can stand on, where the count is that of the
groups and negations on the stack. -/

mutual

theorem Stands.follows_disjunction {cursor : Cursor} (stands : cursor.Stands) (stack : List Frame)
    (opens : Frame.OpensDisjunction stack) (level : cursor.level = Frame.nesting stack) :
    cursor.Follows stack .operand (cursor.index + 1) (Grammar.endsExpression · = true)
      (disjunction cursor) := by
  rw [disjunction]
  have first := stands.follows_conjunction stack opens.opensConjunction level
  generalize conjunction cursor = outcome at first
  cases first with
  | refused onward ran => exact .refused onward ran
  | @read tree later onward ran reached stops =>
    have shorter := onward.remaining_lt reached
    have others := (onward.stands stands).follows_disjuncts tree stack opens (onward.level.trans level)
      stops
    exact others.behind onward ran reached
termination_by 8 * cursor.remaining + 6

theorem Stands.follows_disjuncts {cursor : Cursor} (stands : cursor.Stands) (left : Tree)
    (stack : List Frame) (opens : Frame.OpensDisjunction stack)
    (level : cursor.level = Frame.nesting stack)
    (stops : Grammar.endsConjunction cursor.ahead.kind = true) :
    cursor.Follows stack (.afterOperand left) cursor.index (Grammar.endsExpression · = true)
      (disjuncts left cursor) := by
  rw [disjuncts]
  by_cases marked : cursor.ahead.kind = .keyword .or
  · have taken : Parser.step cursor.limit stack (.afterOperand left) cursor.ahead =
        .take (.join .or left cursor.ahead :: stack) .operand :=
      Parser.step_or left ⟨cursor.ahead, marked⟩ opens
    obtain ⟨ran, moved⟩ := stands.run_of_take taken
    have onward := stands.onward_advance
    have shorter := onward.remaining_lt moved
    have next := stands.advance.follows_conjunction
      (.join .or left cursor.ahead :: stack) trivial (onward.level.trans level)
    simp only [if_pos marked]
    generalize conjunction cursor.advance = outcome at next
    cases next with
    | refused onward' ran' =>
      rw [onward.limit] at ran'
      exact .refused (onward.trans onward') (ran.trans ran')
    | @read right later onward' ran' reached stops' =>
      have behind := onward.trans onward'
      have shorter' := behind.remaining_lt (by omega)
      have standsLater := behind.stands stands
      rw [onward.limit, Parser.run_disjoined opens left right _
        ⟨_, _, standsLater.rest_eq, stops'⟩] at ran'
      simp only [Option.bind_eq_bind, Option.bind_some, behind.limit]
      cases checked : cursor.limit.check (.joined .or left right) cursor.ahead with
      | error diagnostic =>
        rw [checked] at ran'
        exact .refused behind (ran.trans ran')
      | ok joined =>
        rw [checked] at ran'
        have others := standsLater.follows_disjuncts joined stack opens (behind.level.trans level) stops'
        exact others.behind behind (ran.trans ran') behind.forth
  · simp only [if_neg marked]
    refine .read (.refl stands) rfl (Nat.le_refl _) ?_
    generalize cursor.ahead.kind = kind at stops marked
    cases kind <;> simp_all [Grammar.endsConjunction, Grammar.endsExpression]
termination_by 8 * cursor.remaining + 5

theorem Stands.follows_conjunction {cursor : Cursor} (stands : cursor.Stands) (stack : List Frame)
    (opens : Frame.OpensConjunction stack) (level : cursor.level = Frame.nesting stack) :
    cursor.Follows stack .operand (cursor.index + 1) (Grammar.endsConjunction · = true)
      (conjunction cursor) := by
  rw [conjunction]
  have first := stands.follows_unary stack level
  generalize unary cursor = outcome at first
  cases first with
  | refused onward ran => exact .refused onward ran
  | @read tree later onward ran reached stops =>
    have shorter := onward.remaining_lt reached
    have others := (onward.stands stands).follows_conjuncts tree stack opens (onward.level.trans level)
    exact others.behind onward ran reached
termination_by 8 * cursor.remaining + 4

theorem Stands.follows_conjuncts {cursor : Cursor} (stands : cursor.Stands) (left : Tree)
    (stack : List Frame) (opens : Frame.OpensConjunction stack)
    (level : cursor.level = Frame.nesting stack) :
    cursor.Follows stack (.afterOperand left) cursor.index (Grammar.endsConjunction · = true)
      (conjuncts left cursor) := by
  rw [conjuncts]
  by_cases stops : Grammar.endsConjunction cursor.ahead.kind = true
  · simp only [if_pos stops]
    exact .read (.refl stands) rfl (Nat.le_refl _) stops
  · obtain ⟨middle, next, onward, ran⟩ := stands.exists_continued left opens (by simpa using stops)
    have standsMiddle := onward.stands stands
    have within := onward.remaining_le
    have operand := standsMiddle.follows_unary
      (.join .and left cursor.ahead :: stack) (onward.level.trans level)
    simp only [if_neg stops, next]
    generalize unary middle = outcome at operand
    cases operand with
    | refused onward' ran' =>
      rw [onward.limit] at ran'
      exact .refused (onward.trans onward') (ran.trans ran')
    | @read right later onward' ran' reached _ =>
      have behind := onward.trans onward'
      have forth := onward.forth
      have shorter := behind.remaining_lt (by omega)
      have standsLater := behind.stands stands
      rw [onward.limit, Parser.run_conjoined opens left right _ standsLater.rest_ne_nil] at ran'
      simp only [Option.bind_eq_bind, Option.bind_some, behind.limit]
      cases checked : cursor.limit.check (.joined .and left right) cursor.ahead with
      | error diagnostic =>
        rw [checked] at ran'
        exact .refused behind (ran.trans ran')
      | ok joined =>
        rw [checked] at ran'
        have others := standsLater.follows_conjuncts joined stack opens (behind.level.trans level)
        exact others.behind behind (ran.trans ran') behind.forth
termination_by 8 * cursor.remaining + 3

theorem Stands.follows_unary {cursor : Cursor} (stands : cursor.Stands) (stack : List Frame)
    (level : cursor.level = Frame.nesting stack) :
    cursor.Follows stack .operand (cursor.index + 1) (fun _ => True) (unary cursor) := by
  rw [unary]
  by_cases marked : cursor.ahead.kind = .keyword .not
  · have opens : Parser.step cursor.limit stack .operand cursor.ahead =
        Parser.openLevel cursor.limit stack (.negation cursor.ahead) cursor.ahead :=
      Parser.startOperand_not stack ⟨cursor.ahead, marked⟩
    have onward := stands.onward_advance
    simp only [if_pos marked, onward.limit, onward.level, level]
    by_cases within : cursor.limit.allows (Frame.nesting stack + 1) = true
    · obtain ⟨ran, moved⟩ := stands.run_of_take (opens.trans (if_pos within))
      have shorter : cursor.advance.enter.remaining < cursor.remaining := onward.remaining_lt moved
      have inner := stands.advance.enter.follows_unary
        (.negation cursor.ahead :: stack)
        (congrArg (· + 1) (onward.level.trans level))
      simp only [if_pos within]
      generalize unary cursor.advance.enter = outcome at inner
      cases inner with
      | @refused diagnostic later inside ran' =>
        rw [show cursor.advance.enter.limit = cursor.limit from onward.limit] at ran'
        exact .refused (inside.leave stands) (ran.trans ran')
      | @read inner later inside ran' reached _ =>
        have behind := inside.leave stands
        have standsLater := behind.stands stands
        rw [show cursor.advance.enter.limit = cursor.limit from onward.limit,
          show later.rest = later.leave.rest from rfl,
          Parser.run_negated stack _ inner standsLater.rest_ne_nil] at ran'
        simp only [Option.bind_eq_bind, Option.bind_some, Except.bind, behind.limit]
        cases checked : cursor.limit.check (inner.negated cursor.ahead.span.position)
            cursor.ahead with
        | error diagnostic =>
          rw [checked] at ran'
          exact .refused behind (ran.trans ran')
        | ok negated =>
          rw [checked] at ran'
          exact .read behind (ran.trans ran') (Nat.le_trans moved (Nat.le_of_succ_le reached))
            trivial
    · simp only [if_neg within]
      exact stands.follows_refuseAfter (opens.trans (if_neg within))
  · simp only [if_neg marked]
    exact stands.follows_atom stack level marked
termination_by 8 * cursor.remaining + 2

theorem Stands.follows_atom {cursor : Cursor} (stands : cursor.Stands) (stack : List Frame)
    (level : cursor.level = Frame.nesting stack) (noMark : cursor.ahead.kind ≠ .keyword .not) :
    cursor.Follows stack .operand (cursor.index + 1) (fun _ => True) (atom cursor) := by
  rw [atom]
  split
  · next term => exact stands.follows_take (Parser.startOperand_term stack ⟨cursor.ahead, term⟩)
  · next noTerm =>
    split
    · next opened => exact stands.follows_group stack level opened
    · next named => exact stands.follows_clause stack named
    · next starred =>
      exact stands.follows_take (Parser.startOperand_wildcard stack ⟨cursor.ahead, starred⟩)
    · next colon =>
      exact stands.follows_refuse (by simp only [Parser.step, Parser.startOperand, colon])
    · next mark marked =>
      exact stands.follows_refuse (by simp only [Parser.step, Parser.startOperand, marked])
    · next noGroup noField noWildcard noColon noRange =>
      apply stands.follows_refuse
      simp only [Parser.step, Parser.startOperand]
      split <;> simp_all [Token.Kind.isLiteral]
termination_by 8 * cursor.remaining + 1

theorem Stands.follows_group {cursor : Cursor} (stands : cursor.Stands) (stack : List Frame)
    (level : cursor.level = Frame.nesting stack) (opened : cursor.ahead.kind = .leftParen) :
    cursor.Follows stack .operand (cursor.index + 1) (fun _ => True) (group cursor) := by
  rw [group]
  have opens : Parser.step cursor.limit stack .operand cursor.ahead =
      Parser.openLevel cursor.limit stack (.group cursor.ahead) cursor.ahead :=
    Parser.startOperand_opening stack ⟨cursor.ahead, opened⟩
  have onward := stands.onward_advance
  simp only [onward.limit, onward.level, level]
  by_cases within : cursor.limit.allows (Frame.nesting stack + 1) = true
  · obtain ⟨ran, moved⟩ := stands.run_of_take (opens.trans (if_pos within))
    have shorter : cursor.advance.enter.remaining < cursor.remaining := onward.remaining_lt moved
    have inner := stands.advance.enter.follows_disjunction
      (.group cursor.ahead :: stack) trivial
      (congrArg (· + 1) (onward.level.trans level))
    simp only [if_pos within]
    generalize disjunction cursor.advance.enter = outcome at inner
    cases inner with
    | @refused diagnostic later inside ran' =>
      rw [show cursor.advance.enter.limit = cursor.limit from onward.limit] at ran'
      exact .refused (inside.leave stands) (ran.trans ran')
    | @read inner later inside ran' reached stops =>
      have behind := inside.leave stands
      have standsLater := behind.stands stands
      rw [show cursor.advance.enter.limit = cursor.limit from onward.limit] at ran'
      have ran := ran.trans ran'
      have beyond : cursor.index + 1 ≤ later.index := Nat.le_trans moved (Nat.le_of_succ_le reached)
      simp only [Option.bind_eq_bind, Option.bind_some]
      by_cases closing : later.leave.ahead.kind = .rightParen
      · have taken := @Parser.step_closing later.leave.limit stack cursor.ahead inner
          ⟨later.leave.ahead, closing⟩
        have ended := standsLater.run_of_take taken
        rw [behind.limit] at ended
        simp only [if_pos closing, stands.stretch?_eq behind, Option.bind_some]
        exact .read (behind.trans standsLater.onward_advance) (ran.trans ended.1)
          (Nat.le_trans beyond standsLater.onward_advance.forth) trivial
      · have refused : Parser.step later.leave.limit (.group cursor.ahead :: stack)
            (.afterOperand inner) later.leave.ahead = .refuse
              ((Problem.unclosedGroup cursor.ahead.span.position later.leave.ahead).report
                later.leave.ahead.span) :=
          Parser.step_unclosed stack cursor.ahead inner stops closing
        have ended := standsLater.run_of_refuse refused
        rw [behind.limit] at ended
        simp only [if_neg closing]
        exact .refused behind (ran.trans ended)
  · simp only [if_neg within]
    exact stands.follows_refuseAfter (opens.trans (if_neg within))
termination_by 8 * cursor.remaining

end

end Cursor

end SearchBox
