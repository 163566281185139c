import SearchBox.Proofs.Grammar.Unambiguity
import SearchBox.Proofs.Grammar.Walks

/-! Reading by recursive descent: one function for each rule of the grammar, over a row of tokens that
stays as it is. The reader knows its place in the row and counts the groups and negations that it is
inside; the count goes up on the way in and down on the way out, whether the inside was read or refused.
On a row that ends with the end of the input it comes to what the parser comes to that keeps a stack. -/

namespace SearchBox

/-- A reader of a row of tokens: the place of the token ahead, and how many groups and negations are
open. -/
structure Cursor where
  row : List Token
  index : Nat
  level : Nat
  limit : DepthLimit
  deriving DecidableEq, Repr

namespace Cursor

def start (row : List Token) (limit : DepthLimit) : Cursor :=
  ⟨row, 0, 0, limit⟩

/-- The token ahead; behind the row it is still the last one. -/
def ahead (cursor : Cursor) : Token :=
  cursor.row.getD (min cursor.index (cursor.row.length - 1)) (Token.atEnd 0)

/-- Goes past the token ahead, but not past the end of the input. -/
def advance (cursor : Cursor) : Cursor :=
  if cursor.ahead.kind = .endOfInput then cursor else { cursor with index := cursor.index + 1 }

/-- The count on the way into a group or a negation. -/
def enter (cursor : Cursor) : Cursor :=
  { cursor with level := cursor.level + 1 }

/-- The count on the way out. -/
def leave (cursor : Cursor) : Cursor :=
  { cursor with level := cursor.level - 1 }

/-- The tokens from the place on. -/
def rest (cursor : Cursor) : List Token :=
  cursor.row.drop cursor.index

/-- What a reading comes to, and where the reader stands then. A reading without an outcome does not
return: it goes on for ever, or it measures a stretch that ends before it starts. -/
abbrev Outcome (α : Type) : Type :=
  Except Diagnostic α × Cursor

/-- The stretch from the start of one token to the end of another, if it does not end before it
starts. -/
def stretch? (first last : Token) : Option Span :=
  if first.span.position ≤ last.span.stop then
    some ⟨first.span.position, last.span.stop - first.span.position⟩
  else none

/-- A value of a clause on the field. -/
def literal (field : FieldName) (cursor : Cursor) : Outcome Literal :=
  let token := cursor.ahead
  if token.kind.isLiteral then (.ok (.ofToken token), cursor.advance)
  else
    match token.kind with
    | .wildcard => (.error ((Problem.wildcardAsValue field.name).report token.span), cursor)
    | .unterminated | .invalid => (.error (Problem.unexpected token), cursor)
    | _ => (.error ((Problem.noValue field.name token).report token.span), cursor)

/-- A clause on the field, from its name up to `stop`. -/
def onField (field : FieldName) (stop : Nat) (clause : Clause FieldName Literal) : Tree :=
  .leaf (Span.upTo field.span.position stop) clause

/-- `value (',' value)* ')'`, behind `opening` and the values that are already read. -/
def items (field : FieldName) (opening : Token) (values : List Literal) (cursor : Cursor) :
    Option (Outcome Tree) := do
  let token := cursor.ahead
  if token.kind = .rightParen ∧ values = [] then
    let span ← stretch? opening token
    return (.error ((Problem.emptyList field.name).report span), cursor)
  else
    match cursor.literal field with
    | (.error diagnostic, cursor) => return (.error diagnostic, cursor)
    | (.ok value, cursor) =>
      let separator := cursor.ahead
      match separator.kind with
      | .comma => cursor.advance |>.items field opening (values ++ [value])
      | .rightParen =>
        return (.ok (onField field separator.span.stop (.member field (values ++ [value]))),
          cursor.advance)
      | _ =>
        return (.error ((Problem.listNotContinued separator).report separator.span),
          cursor.advance)
partial_fixpoint

/-- `'IN' '(' value (',' value)* ')'` -/
def list (field : FieldName) (cursor : Cursor) : Option (Outcome Tree) :=
  let cursor := cursor.advance
  let opening := cursor.ahead
  if opening.kind = .leftParen then items field opening [] cursor.advance
  else some (.error ((Problem.listNotOpened opening).report opening.span), cursor.advance)

/-- `('>='|'<='|'>'|'<') literal` -/
def bound (field : FieldName) (comparison : Comparison) (cursor : Cursor) : Outcome Tree :=
  let outcome := cursor.advance.literal field
  (outcome.1.map fun value =>
    onField field value.span.stop (.range field (.bound comparison) value none), outcome.2)

/-- `literal` or `literal '..' literal` -/
def valueOrRange (field : FieldName) (cursor : Cursor) : Outcome Tree :=
  match cursor.literal field with
  | (.error diagnostic, cursor) => (.error diagnostic, cursor)
  | (.ok value, cursor) =>
    if cursor.ahead.kind = .range .span then
      let outcome := cursor.advance.literal field
      (outcome.1.map fun upper =>
        onField field upper.span.stop (.range field .between value (some upper)), outcome.2)
    else (.ok (onField field value.span.stop (.equals field value)), cursor)

/-- `field ':' (rangeVal | inList | value)` -/
def clause (cursor : Cursor) : Option (Outcome Tree) :=
  let field := FieldName.ofToken cursor.ahead
  let cursor := cursor.advance
  let colon := cursor.ahead
  let cursor := cursor.advance
  if colon.kind = .colon then
    let next := cursor.ahead
    match next.kind with
    | .keyword .isIn => list field cursor
    | .range .span =>
      some (.error ((Problem.noLowerBound field.name).report next.span), cursor)
    | .range (.bound comparison) => some (bound field comparison cursor)
    | _ => some (valueOrRange field cursor)
  else some (.error (Problem.unexpected colon), cursor)

/-- Why no group or negation may be opened by the token. -/
def tooNested (limit : DepthLimit) (token : Token) : Diagnostic :=
  (Problem.nestedTooDeep (limit.getD 0)).report token.span

mutual

/-- `or := and (OR and)*` -/
def disjunction (cursor : Cursor) : Option (Outcome Tree) := do
  match ← cursor |>.conjunction with
  | (.error diagnostic, cursor) => return (.error diagnostic, cursor)
  | (.ok first, cursor) => cursor |>.disjuncts first
partial_fixpoint

/-- `(OR and)*`, behind what is already read. -/
def disjuncts (left : Tree) (cursor : Cursor) : Option (Outcome Tree) := do
  let mark := cursor.ahead
  if mark.kind = .keyword .or then
    match ← cursor.advance |>.conjunction with
    | (.error diagnostic, cursor) => return (.error diagnostic, cursor)
    | (.ok right, cursor) =>
      match cursor.limit.check (.joined .or left right) mark with
      | .error diagnostic => return (.error diagnostic, cursor)
      | .ok joined => cursor |>.disjuncts joined
  else return (.ok left, cursor)
partial_fixpoint

/-- `and := unary (AND? unary)*` -/
def conjunction (cursor : Cursor) : Option (Outcome Tree) := do
  match ← cursor |>.unary with
  | (.error diagnostic, cursor) => return (.error diagnostic, cursor)
  | (.ok first, cursor) => cursor |>.conjuncts first
partial_fixpoint

/-- `(AND? unary)*`, behind what is already read. -/
def conjuncts (left : Tree) (cursor : Cursor) : Option (Outcome Tree) := do
  let mark := cursor.ahead
  if Grammar.endsConjunction mark.kind then return (.ok left, cursor)
  else
    let next := if mark.kind = .keyword .and then cursor.advance else cursor
    match ← next |>.unary with
    | (.error diagnostic, cursor) => return (.error diagnostic, cursor)
    | (.ok right, cursor) =>
      match cursor.limit.check (.joined .and left right) mark with
      | .error diagnostic => return (.error diagnostic, cursor)
      | .ok joined => cursor |>.conjuncts joined
partial_fixpoint

/-- `unary := NOT unary | atom` -/
def unary (cursor : Cursor) : Option (Outcome Tree) := do
  let mark := cursor.ahead
  if mark.kind = .keyword .not then
    let cursor := cursor.advance
    if cursor.limit.allows (cursor.level + 1) then
      let outcome ← cursor.enter |>.unary
      let cursor := outcome.2.leave
      return (outcome.1.bind fun inner =>
        cursor.limit.check (inner.negated mark.span.position) mark, cursor)
    else return (.error (tooNested cursor.limit mark), cursor)
  else cursor |>.atom
partial_fixpoint

/-- `atom := '(' expr ')' | field ':' clause | wildcard | term` -/
def atom (cursor : Cursor) : Option (Outcome Tree) :=
  let token := cursor.ahead
  if token.kind = .word ∨ token.kind.isLiteral = true then
    some (.ok (.leaf token.span (.term token.value)), cursor.advance)
  else
    match token.kind with
    | .leftParen => cursor |>.group
    | .fieldName => clause cursor
    | .wildcard =>
      some (.ok (.leaf token.span (.wildcard token.value token.isQuoted)), cursor.advance)
    | .colon => some (.error (Problem.colonWithoutField.report token.span), cursor)
    | .range mark => some (.error ((Problem.markWithoutField mark).report token.span), cursor)
    | _ => some (.error (Problem.unexpected token), cursor)
partial_fixpoint

/-- `'(' expr ')'` -/
def group (cursor : Cursor) : Option (Outcome Tree) := do
  let opening := cursor.ahead
  let cursor := cursor.advance
  if cursor.limit.allows (cursor.level + 1) then
    let outcome ← cursor.enter |>.disjunction
    let cursor := outcome.2.leave
    match outcome.1 with
    | .error diagnostic => return (.error diagnostic, cursor)
    | .ok inner =>
      let closing := cursor.ahead
      if closing.kind = .rightParen then
        let span ← stretch? opening closing
        return (.ok (inner.withSpan span), cursor.advance)
      else
        let problem := Problem.unclosedGroup opening.span.position closing
        return (.error (problem.report closing.span), cursor)
  else return (.error (tooNested cursor.limit opening), cursor)
partial_fixpoint

end

/-- Reads one expression, or nothing at the end of the input. -/
def parse (cursor : Cursor) : Option (Outcome (Option Tree)) :=
  if cursor.ahead.kind = .endOfInput then some (.ok none, cursor)
  else (disjunction cursor).map fun outcome => (outcome.1.map some, outcome.2)

/-- Refuses a token that is left over. -/
def expectEnd (cursor : Cursor) : Except Diagnostic Unit :=
  if cursor.ahead.kind = .endOfInput then .ok () else .error (Problem.unexpected cursor.ahead)


/-! Where a cursor can stand, and where it can get to. -/

/-- The cursor stands on a row that has one end of the input, at its end, and no token that begins before
the one in front of it. -/
structure Stands (cursor : Cursor) : Prop where
  ended : ∃ body ending, cursor.row = body ++ [ending] ∧ ending.kind = .endOfInput ∧
    ∀ token ∈ body, token.kind ≠ .endOfInput
  ordered : Token.StartInOrder cursor.row
  within : cursor.index < cursor.row.length

/-- The second cursor is on the same row and at the same level, and no further back. -/
structure Onward (cursor later : Cursor) : Prop where
  row : later.row = cursor.row
  level : later.level = cursor.level
  limit : later.limit = cursor.limit
  forth : cursor.index ≤ later.index
  within : later.index < cursor.row.length

variable {cursor middle later : Cursor}

theorem Onward.stands (onward : cursor.Onward later) (stands : cursor.Stands) : later.Stands := by
  constructor
  · rw [onward.row]
    exact stands.ended
  · rw [onward.row]
    exact stands.ordered
  · rw [onward.row]
    exact onward.within

theorem Onward.refl (stands : cursor.Stands) : cursor.Onward cursor :=
  ⟨rfl, rfl, rfl, Nat.le_refl _, stands.within⟩

theorem Onward.trans (first : cursor.Onward middle) (second : middle.Onward later) :
    cursor.Onward later :=
  ⟨second.row.trans first.row, second.level.trans first.level, second.limit.trans first.limit,
    Nat.le_trans first.forth second.forth, first.row ▸ second.within⟩

/-- How many tokens are still to be read. -/
def remaining (cursor : Cursor) : Nat :=
  cursor.row.length - cursor.index

theorem Onward.remaining_le (onward : cursor.Onward later) : later.remaining ≤ cursor.remaining := by
  have forth := onward.forth
  rw [remaining, remaining, onward.row]
  omega

theorem Onward.remaining_lt (onward : cursor.Onward later) (moved : cursor.index < later.index) :
    later.remaining < cursor.remaining := by
  have within := onward.within
  rw [remaining, remaining, onward.row]
  omega

namespace Stands

variable (stands : cursor.Stands)
include stands

theorem ahead_eq : cursor.row[cursor.index]? = some cursor.ahead := by
  have within := stands.within
  rw [ahead, Nat.min_eq_left (by omega), List.getD_eq_getElem?_getD,
    List.getElem?_eq_getElem within, Option.getD_some]

theorem rest_eq : cursor.rest = cursor.ahead :: cursor.row.drop (cursor.index + 1) := by
  obtain ⟨within, same⟩ := List.getElem?_eq_some_iff.1 stands.ahead_eq
  rw [rest, List.drop_eq_getElem_cons within, same]

theorem rest_ne_nil : cursor.rest ≠ [] := by
  rw [stands.rest_eq]
  exact List.cons_ne_nil _ _

/-- The end of the input is the last token, and no other is. -/
theorem ends_iff : cursor.ahead.kind = .endOfInput ↔ cursor.index + 1 = cursor.row.length := by
  obtain ⟨body, ending, row, ends, inside⟩ := stands.ended
  have found := stands.ahead_eq
  have within := stands.within
  rw [row] at found within ⊢
  rw [List.length_append, List.length_singleton] at within ⊢
  by_cases last : cursor.index = body.length
  · rw [last, List.getElem?_concat_length, Option.some.injEq] at found
    rw [← found, last]
    exact iff_of_true ends rfl
  · rw [List.getElem?_append_left (by omega)] at found
    exact iff_of_false (inside _ (List.mem_of_getElem? found)) (by omega)

theorem onward_advance : cursor.Onward cursor.advance := by
  by_cases ended : cursor.ahead.kind = .endOfInput
  · rw [advance, if_pos ended]
    exact .refl stands
  · rw [advance, if_neg ended]
    have within := stands.within
    have before := mt stands.ends_iff.2 ended
    exact ⟨rfl, rfl, rfl, Nat.le_succ _, by dsimp only; omega⟩

theorem pass_ahead : Parser.pass cursor.ahead (cursor.row.drop (cursor.index + 1)) =
    cursor.advance.rest := by
  unfold Parser.pass advance
  split
  · exact stands.rest_eq.symm
  · rfl

/-- From where the cursor stands a stretch can be measured to the token ahead of any later place. -/
theorem stretch?_eq (onward : cursor.Onward later) : stretch? cursor.ahead later.ahead =
    some ⟨cursor.ahead.span.position,
      later.ahead.span.stop - cursor.ahead.span.position⟩ := by
  have start : cursor.ahead.span.position ≤ later.ahead.span.position := by
    have found := stands.ahead_eq
    have found' := (onward.stands stands).ahead_eq
    rw [onward.row] at found'
    obtain ⟨within, same⟩ := List.getElem?_eq_some_iff.1 found
    obtain ⟨within', same'⟩ := List.getElem?_eq_some_iff.1 found'
    rcases Nat.lt_or_eq_of_le onward.forth with before | here
    · rw [← same, ← same']
      exact List.pairwise_iff_getElem.1 stands.ordered _ _ within within' before
    · rw [← same, ← same']
      simp only [here, Nat.le_refl]
  exact if_pos (Nat.le_trans start later.ahead.span.position_le_stop)

end Stands

theorem Stands.advance (stands : cursor.Stands) : cursor.advance.Stands :=
  stands.onward_advance.stands stands

end Cursor

end SearchBox
