import SearchBox.Proofs.Grammar.Limits

/-! Where the parser gives a query up. The tokens taken so far bring it to a place that does not depend
on those that follow. From there it reports the token that it cannot take, a token that something still
open began with, or a list that is closed before its first value. -/

namespace SearchBox

/-- The tokens that what is open began with. -/
def Frame.marks : List Frame → List Token
  | [] => []
  | group mark :: stack | negation mark :: stack | join _ _ mark :: stack => mark :: marks stack

/-- The report with which the move gives the query up. -/
def Move.diagnostic? : Move → Option Diagnostic
  | refuse diagnostic | refuseAfter diagnostic => some diagnostic
  | take _ _ | finish _ => none

variable {limit : DepthLimit} {stack stack' : List Frame} {stage stage' : Stage} {token : Token}
  {tree tree' : Tree} {diagnostic : Diagnostic}

/-- A report that stops the reading, on some span. -/
def Diagnostic.Stops (diagnostic : Diagnostic) (span : Span) : Prop :=
  diagnostic.code.isSyntax = true ∧ diagnostic.span = span

namespace Problem

theorem stops_report {problem : Problem} (fatal : problem.code.isSyntax = true) (span : Span) :
    (problem.report span).Stops span :=
  ⟨fatal, rfl⟩

/-- The end of the input is reported where it stands, if it takes up no room there. -/
theorem stops_unexpected (flat : token.kind = .endOfInput → token.span.length = 0) :
    (unexpected token).Stops token.span := by
  constructor
  · show (ofToken token).code.isSyntax = true
    unfold ofToken
    split <;> rfl
  · show spanOf token = token.span
    unfold spanOf
    split
    · next ends =>
      rw [← flat ends]
    · rfl

end Problem

/-- A tree is refused only where there is a limit, and on the token that it is blamed on. -/
theorem DepthLimit.stops_of_check {mark : Token} (refused : limit.check tree mark = .error diagnostic) :
    limit ≠ none ∧ diagnostic.Stops mark.span := by
  unfold check at refused
  split at refused
  · cases refused
  · next high =>
    cases refused
    constructor
    · rintro rfl
      exact high rfl
    · apply Problem.stops_report
      cases tree <;> rfl

/-- What comes after a check fails as the check does or by itself. -/
theorem DepthLimit.error_of_bind_check {α : Type} {mark : Token} {next : Tree → Except Diagnostic α}
    (refused : (limit.check tree mark >>= next) = .error diagnostic) :
    (limit ≠ none ∧ diagnostic.Stops mark.span) ∨ next tree = .error diagnostic := by
  cases checked : limit.check tree mark with
  | error problem =>
    rw [checked] at refused
    cases refused
    exact .inl (stops_of_check checked)
  | ok made =>
    obtain rfl := eq_of_check checked
    rw [checked] at refused
    exact .inr refused

theorem DepthLimit.ok_of_bind_check {α : Type} {mark : Token} {next : Tree → Except Diagnostic α}
    {result : α} (passed : (limit.check tree mark >>= next) = .ok result) : next tree = .ok result := by
  cases checked : limit.check tree mark with
  | error problem =>
    rw [checked] at passed
    cases passed
  | ok made =>
    obtain rfl := eq_of_check checked
    rwa [checked] at passed

/-- The report is on a token that something open began with, which only a limit makes happen. -/
def DepthLimit.StopsAtMark (limit : DepthLimit) (stack : List Frame) (diagnostic : Diagnostic) : Prop :=
  limit ≠ none ∧ ∃ mark ∈ Frame.marks stack, diagnostic.Stops mark.span

theorem DepthLimit.StopsAtMark.mono (stops : limit.StopsAtMark stack diagnostic)
    (within : ∀ mark ∈ Frame.marks stack, mark ∈ Frame.marks stack') :
    limit.StopsAtMark stack' diagnostic := by
  obtain ⟨limited, mark, member, here⟩ := stops
  exact ⟨limited, mark, within mark member, here⟩

namespace Frame

theorem stops_closeConjunction (refused : closeConjunction limit stack tree = .error diagnostic) :
    limit.StopsAtMark stack diagnostic := by
  fun_induction closeConjunction limit stack tree with
  | case1 mark stack tree ih =>
    rcases DepthLimit.error_of_bind_check refused with ⟨limited, stops⟩ | later
    · exact ⟨limited, mark, List.mem_cons_self, stops⟩
    · exact (ih _ later).mono fun _ => List.mem_cons_of_mem _
  | case2 left mark stack tree =>
    rcases DepthLimit.error_of_bind_check refused with ⟨limited, stops⟩ | later
    · exact ⟨limited, mark, List.mem_cons_self, stops⟩
    · cases later
  | case3 => cases refused

theorem stops_closeDisjunction (refused : closeDisjunction limit stack tree = .error diagnostic) :
    limit.StopsAtMark stack diagnostic := by
  unfold closeDisjunction at refused
  split at refused
  · next left mark stack =>
    rcases DepthLimit.error_of_bind_check refused with ⟨limited, stops⟩ | later
    · exact ⟨limited, mark, List.mem_cons_self, stops⟩
    · cases later
  · cases refused

/-- Closing a conjunction takes frames off the stack. -/
theorem suffix_closeConjunction (closed : closeConjunction limit stack tree = .ok (stack', tree')) :
    stack' <:+ stack := by
  fun_induction closeConjunction limit stack tree with
  | case1 mark stack tree ih =>
    exact (ih _ (DepthLimit.ok_of_bind_check closed)).trans (List.suffix_cons _ _)
  | case2 left mark stack tree =>
    cases DepthLimit.ok_of_bind_check closed
    exact List.suffix_cons _ _
  | case3 =>
    cases closed
    exact List.suffix_rfl

theorem suffix_closeDisjunction (closed : closeDisjunction limit stack tree = .ok (stack', tree')) :
    stack' <:+ stack := by
  unfold closeDisjunction at closed
  split at closed
  · cases DepthLimit.ok_of_bind_check closed
    exact List.suffix_cons _ _
  · cases closed
    exact List.suffix_rfl

theorem marks_append (upper lower : List Frame) : marks (upper ++ lower) = marks upper ++ marks lower := by
  induction upper with
  | nil => rfl
  | cons frame upper ih => cases frame <;> exact congrArg (_ :: ·) ih

theorem mem_marks_of_suffix (suffix : stack' <:+ stack) :
    ∀ mark ∈ marks stack', mark ∈ marks stack := by
  obtain ⟨upper, rfl⟩ := suffix
  intro mark member
  rw [marks_append]
  exact List.mem_append_right _ member

end Frame

namespace Parser

theorem stops_startOperand (flat : token.kind = .endOfInput → token.span.length = 0)
    (refused : (startOperand limit stack token).diagnostic? = some diagnostic) :
    diagnostic.Stops token.span := by
  unfold startOperand openLevel at refused
  split at refused
  · split at refused
    · cases refused
    · cases refused
      exact Problem.stops_report rfl _
  · split at refused
    · cases refused
    · cases refused
      exact Problem.stops_report rfl _
  all_goals cases refused
  · exact Problem.stops_report rfl _
  · exact Problem.stops_report rfl _
  · exact Problem.stops_unexpected flat

theorem stops_endGroup (refused : (endGroup stack tree token).diagnostic? = some diagnostic) :
    diagnostic.Stops token.span := by
  unfold endGroup at refused
  split at refused
  · split at refused
    · cases refused
    · cases refused
      exact Problem.stops_report rfl _
  · cases refused

theorem stops_expectLiteral (flat : token.kind = .endOfInput → token.span.length = 0)
    {field : FieldName} {next : Literal → Move} (goesOn : ∀ value, (next value).diagnostic? = none)
    (refused : (expectLiteral field token next).diagnostic? = some diagnostic) :
    diagnostic.Stops token.span := by
  unfold expectLiteral at refused
  split at refused
  case h_5 =>
    cases refused
    exact Problem.stops_report rfl _
  case h_6 | h_7 =>
    cases refused
    exact Problem.stops_unexpected flat
  case h_8 =>
    cases refused
    exact Problem.stops_report rfl _
  all_goals
    rw [goesOn] at refused
    cases refused

theorem stops_continueOperand (flat : token.kind = .endOfInput → token.span.length = 0)
    (refused : (continueOperand limit stack tree token).diagnostic? = some diagnostic) :
    diagnostic.Stops token.span ∨ limit.StopsAtMark stack diagnostic := by
  unfold continueOperand at refused
  cases closed : Frame.closeConjunction limit stack tree with
  | error problem =>
    rw [closed] at refused
    cases refused
    exact .inr (Frame.stops_closeConjunction closed)
  | ok conjunction =>
    obtain ⟨inner, part⟩ := conjunction
    have within := Frame.mem_marks_of_suffix (Frame.suffix_closeConjunction closed)
    simp only [closed, Move.ofExcept] at refused
    -- The disjunction is closed in front of an `OR`, a parenthesis and the end alike.
    have closing {next : List Frame × Tree → Move}
        (refused : (Move.ofExcept (Frame.closeDisjunction limit inner part) next).diagnostic? =
          some diagnostic)
        (stops : ∀ disjunction, (next disjunction).diagnostic? = some diagnostic →
          diagnostic.Stops token.span) :
        diagnostic.Stops token.span ∨ limit.StopsAtMark stack diagnostic := by
      cases closed' : Frame.closeDisjunction limit inner part with
      | error problem =>
        rw [closed'] at refused
        cases refused
        exact .inr ((Frame.stops_closeDisjunction closed').mono within)
      | ok disjunction =>
        rw [closed'] at refused
        exact .inl (stops disjunction refused)
    split at refused
    · cases refused
    · apply closing refused
      intro disjunction same
      cases same
    · exact closing refused fun _ => stops_endGroup
    · exact closing refused fun _ => stops_endGroup
    · exact .inl (stops_startOperand flat refused)

/-- What the parser reports at a token: the token, a token that something open began with, or a list
that the token closes before its first value. -/
theorem stops_step (flat : token.kind = .endOfInput → token.span.length = 0)
    (refused : (step limit stack stage token).diagnostic? = some diagnostic) :
    diagnostic.Stops token.span ∨ limit.StopsAtMark stack diagnostic ∨
      ∃ field opening, stage = .listValue field opening [] ∧ token.kind = .rightParen ∧
        diagnostic.Stops (emptyListSpan opening token) := by
  cases stage with
  | operand => exact .inl (stops_startOperand flat refused)
  | afterOperand tree =>
    rcases stops_continueOperand flat refused with here | earlier
    · exact .inl here
    · exact .inr (.inl earlier)
  | colon field =>
    apply Or.inl
    simp only [step] at refused
    split at refused
    · cases refused
    · cases refused
      exact Problem.stops_unexpected flat
  | clause field =>
    apply Or.inl
    simp only [step] at refused
    split at refused
    · cases refused
    · cases refused
      exact Problem.stops_report rfl _
    · cases refused
    · exact stops_expectLiteral flat (fun _ => rfl) refused
  | bound field _ | upperBound field _ =>
    rw [step] at refused
    exact .inl (stops_expectLiteral flat (fun _ => rfl) refused)
  | afterValue field value =>
    simp only [step] at refused
    split at refused
    · cases refused
    · rcases stops_continueOperand flat refused with here | earlier
      · exact .inl here
      · exact .inr (.inl earlier)
  | listOpening field =>
    apply Or.inl
    simp only [step] at refused
    split at refused
    · cases refused
    · cases refused
      exact Problem.stops_report rfl _
  | listValue field opening values =>
    simp only [step] at refused
    split at refused
    · next closes =>
      obtain ⟨closing, rfl⟩ := closes
      cases refused
      exact .inr (.inr ⟨field, opening, rfl, closing, Problem.stops_report rfl _⟩)
    · exact .inl (stops_expectLiteral flat (fun _ => rfl) refused)
  | listSeparator field opening values =>
    apply Or.inl
    simp only [step] at refused
    split at refused
    · cases refused
    · cases refused
    · cases refused
      exact Problem.stops_report rfl _

end Parser

end SearchBox
