import Mathlib.Data.Nat.Basic
import Mathlib.Order.Monotone.Basic
import SearchBox.Proofs.Grammar.Walks
import SearchBox.Proofs.Merging
import SearchBox.Query

/-! Tokens put in other places. The parser takes from the places where tokens stand no more than the
spans of what it builds and of what it reports, and from the text of a reserved word nothing at all. So
a row that is moved by any increasing map of the positions is read as before, with all spans moved. -/

namespace SearchBox

namespace Span

/-- The span whose ends are put where the map puts them. -/
def placed (place : Nat → Nat) (span : Span) : Span :=
  upTo (place span.position) (place span.stop)

variable {place : Nat → Nat}

theorem stop_placed (increasing : StrictMono place) (span : Span) :
    (span.placed place).stop = place span.stop :=
  stop_upTo (increasing.monotone span.position_le_stop)

theorem placed_upTo (increasing : StrictMono place) (start stop : Nat) :
    (upTo start stop).placed place = upTo (place start) (place stop) := by
  rcases Nat.le_total start stop with forward | backward
  · rw [placed, stop_upTo forward]
    rfl
  · have empty : upTo start stop = ⟨start, 0⟩ := by rw [upTo, Nat.sub_eq_zero_of_le backward]
    have back := increasing.monotone backward
    rw [empty, placed, upTo, upTo, Nat.sub_eq_zero_of_le back]
    exact congrArg (mk _) (Nat.sub_self _)

theorem placed_inj (increasing : StrictMono place) {span span' : Span} :
    span.placed place = span'.placed place ↔ span = span' := by
  constructor
  · intro same
    have start : span.position = span'.position :=
      increasing.injective (congrArg position same)
    have stop : span.stop = span'.stop := by
      apply increasing.injective
      rw [← stop_placed increasing, same, stop_placed increasing]
    rw [← upTo_position_stop span, start, stop, upTo_position_stop]
  · rintro rfl
    rfl

end Span

/-- The text of the token, reserved words in capitals. -/
def Token.shown (token : Token) : String :=
  match token.kind with
  | .keyword keyword => keyword.text
  | _ => token.text

def Token.placed (place : Nat → Nat) (token : Token) : Token :=
  ⟨token.kind, token.shown, token.span.placed place⟩

def FieldName.placed (place : Nat → Nat) (field : FieldName) : FieldName :=
  { field with span := field.span.placed place }

def Literal.placed (place : Nat → Nat) (value : Literal) : Literal :=
  { value with span := value.span.placed place }

def Clause.placed (place : Nat → Nat) (clause : Clause FieldName Literal) : Clause FieldName Literal :=
  clause.map (FieldName.placed place) (Literal.placed place)

def Tree.placed (place : Nat → Nat) : Tree → Tree
  | leaf span clause => leaf (span.placed place) (clause.placed place)
  | join connective span depth left right =>
    join connective (span.placed place) depth (left.placed place) (right.placed place)
  | negation span depth inner => negation (span.placed place) depth (inner.placed place)

def Frame.placed (place : Nat → Nat) : Frame → Frame
  | group opening => group (opening.placed place)
  | negation mark => negation (mark.placed place)
  | join connective left mark => join connective (left.placed place) (mark.placed place)

def Stage.placed (place : Nat → Nat) : Stage → Stage
  | operand => operand
  | afterOperand tree => afterOperand (tree.placed place)
  | colon field => colon (field.placed place)
  | clause field => clause (field.placed place)
  | bound field comparison => bound (field.placed place) comparison
  | afterValue field value => afterValue (field.placed place) (value.placed place)
  | upperBound field lower => upperBound (field.placed place) (lower.placed place)
  | listOpening field => listOpening (field.placed place)
  | listValue field opening values =>
    listValue (field.placed place) (opening.placed place) (values.map (Literal.placed place))
  | listSeparator field opening values =>
    listSeparator (field.placed place) (opening.placed place) (values.map (Literal.placed place))

def Diagnostic.placed (place : Nat → Nat) (diagnostic : Diagnostic) : Diagnostic :=
  { diagnostic with span := diagnostic.span.placed place }

/-- The second result is the first one moved: what is found by `move`, or a report of the same class. -/
inductive Placed {α : Type} (move : α → α) :
    Except Diagnostic α → Except Diagnostic α → Prop where
  | ok (a : α) : Placed move (.ok a) (.ok (move a))
  | error {diagnostic diagnostic' : Diagnostic} (same : diagnostic'.code = diagnostic.code) :
      Placed move (.error diagnostic) (.error diagnostic')

inductive Move.Placed (place : Nat → Nat) : Move → Move → Prop where
  | take (stack : List Frame) (stage : Stage) :
      Placed place (take stack stage) (take (stack.map (Frame.placed place)) (stage.placed place))
  | finish (tree : Tree) : Placed place (finish tree) (finish (tree.placed place))
  | refuse {diagnostic diagnostic' : Diagnostic} (same : diagnostic'.code = diagnostic.code) :
      Placed place (refuse diagnostic) (refuse diagnostic')
  | refuseAfter {diagnostic diagnostic' : Diagnostic} (same : diagnostic'.code = diagnostic.code) :
      Placed place (refuseAfter diagnostic) (refuseAfter diagnostic')

variable {place : Nat → Nat} {α β : Type}

theorem Placed.bind {move : α → α} {move' : β → β} {result result' : Except Diagnostic α}
    {next next' : α → Except Diagnostic β} (placed : Placed move result result')
    (each : ∀ a, Placed move' (next a) (next' (move a))) :
    Placed move' (result >>= next) (result' >>= next') := by
  cases placed with
  | ok a => exact each a
  | error same => exact .error same

theorem Placed.map {move : α → α} {move' : β → β} {result result' : Except Diagnostic α} {f f' : α → β}
    (placed : Placed move result result') (each : ∀ a, f' (move a) = move' (f a)) :
    Placed move' (result.map f) (result'.map f') := by
  cases placed with
  | ok a =>
    rw [Except.map, Except.map, each]
    exact .ok (f a)
  | error same => exact .error same

theorem Move.Placed.ofExcept {move : α → α} {result result' : Except Diagnostic α}
    {next next' : α → Move} (placed : SearchBox.Placed move result result')
    (each : ∀ a, (next a).Placed place (next' (move a))) :
    (Move.ofExcept result next).Placed place (Move.ofExcept result' next') := by
  cases placed with
  | ok a => exact each a
  | error same => exact .refuse same

/-! What is made from tokens. -/

namespace Token

@[simp] theorem kind_placed (token : Token) : (token.placed place).kind = token.kind :=
  rfl

@[simp] theorem span_placed (token : Token) :
    (token.placed place).span = token.span.placed place :=
  rfl

/-- Only the text of a reserved word may change. -/
theorem text_placed {token : Token} (unreserved : ∀ keyword, token.kind ≠ .keyword keyword) :
    (token.placed place).text = token.text := by
  unfold placed shown
  split
  · next keyword reserved => exact absurd reserved (unreserved keyword)
  · rfl

theorem value_placed {token : Token} (unreserved : ∀ keyword, token.kind ≠ .keyword keyword) :
    (token.placed place).value = token.value := by
  rw [value, value, text_placed unreserved, kind_placed]

theorem isQuoted_placed {token : Token} (unreserved : ∀ keyword, token.kind ≠ .keyword keyword) :
    (token.placed place).isQuoted = token.isQuoted := by
  rw [isQuoted, isQuoted, text_placed unreserved]

theorem fieldName_placed {token : Token} (unreserved : ∀ keyword, token.kind ≠ .keyword keyword) :
    FieldName.ofToken (token.placed place) = (FieldName.ofToken token).placed place := by
  rw [FieldName.ofToken, text_placed unreserved]
  rfl

theorem literal_placed {token : Token} (unreserved : ∀ keyword, token.kind ≠ .keyword keyword) :
    Literal.ofToken (token.placed place) = (Literal.ofToken token).placed place := by
  rw [Literal.ofToken, value_placed unreserved]
  rfl

end Token

theorem Problem.code_unexpected_placed (token : Token) :
    (unexpected (token.placed place)).code = (unexpected token).code := by
  simp only [unexpected, report, ofToken, Token.kind_placed]
  split <;> rfl

/-! What is made from trees. -/

namespace Tree

@[simp] theorem depth_placed (tree : Tree) : (tree.placed place).depth = tree.depth := by
  cases tree <;> rfl

@[simp] theorem span_placed (tree : Tree) :
    (tree.placed place).span = tree.span.placed place := by
  cases tree <;> rfl

theorem withSpan_placed (span : Span) (tree : Tree) :
    (tree.placed place).withSpan (span.placed place) = (tree.withSpan span).placed place := by
  cases tree <;> rfl

theorem joined_placed (increasing : StrictMono place) (connective : Connective) (left right : Tree) :
    joined connective (left.placed place) (right.placed place) =
      (joined connective left right).placed place := by
  simp only [joined, placed, span_placed, depth_placed, Span.placed_upTo increasing,
    Span.stop_placed increasing]
  rfl

theorem negated_placed (increasing : StrictMono place) (start : Nat) (inner : Tree) :
    (inner.placed place).negated (place start) = (inner.negated start).placed place := by
  simp only [negated, placed, span_placed, depth_placed, Span.placed_upTo increasing,
    Span.stop_placed increasing]

end Tree

/-! The parser, step by step. -/

namespace DepthLimit

theorem placed_check (limit : DepthLimit) (place : Nat → Nat) (tree : Tree) (mark : Token) :
    Placed (Tree.placed place) (limit.check tree mark)
      (limit.check (tree.placed place) (mark.placed place)) := by
  have code : (limit.problem (tree.placed place)).code = (limit.problem tree).code := by
    cases tree <;> rfl
  unfold check
  rw [Tree.depth_placed]
  split
  · exact .ok tree
  · exact .error code

end DepthLimit

namespace Frame

@[simp] theorem nesting_placed (stack : List Frame) :
    nesting (stack.map (Frame.placed place)) = nesting stack := by
  induction stack with
  | nil => rfl
  | cons frame stack ih => cases frame <;> simp [nesting, placed, ih]

/-- A stack moved together with the tree on top of it. -/
def placedWith (place : Nat → Nat) (top : List Frame × Tree) : List Frame × Tree :=
  (top.1.map (Frame.placed place), top.2.placed place)

theorem placed_closeConjunction (increasing : StrictMono place) (limit : DepthLimit)
    (stack : List Frame) (tree : Tree) :
    Placed (placedWith place) (closeConjunction limit stack tree)
      (closeConjunction limit (stack.map (Frame.placed place)) (tree.placed place)) := by
  induction stack generalizing tree with
  | nil => exact .ok ([], tree)
  | cons frame stack ih =>
    match frame with
    | .group opening => exact .ok (.group opening :: stack, tree)
    | .negation mark =>
      have checked := limit.placed_check place (tree.negated mark.span.position) mark
      rw [← Tree.negated_placed increasing] at checked
      exact checked.bind ih
    | .join .and left mark =>
      have checked := limit.placed_check place (Tree.joined .and left tree) mark
      rw [← Tree.joined_placed increasing] at checked
      exact checked.bind fun joined => .ok (stack, joined)
    | .join .or left mark => exact .ok (.join .or left mark :: stack, tree)

theorem placed_closeDisjunction (increasing : StrictMono place) (limit : DepthLimit)
    (stack : List Frame) (tree : Tree) :
    Placed (placedWith place) (closeDisjunction limit stack tree)
      (closeDisjunction limit (stack.map (Frame.placed place)) (tree.placed place)) := by
  match stack with
  | [] => exact .ok ([], tree)
  | .group opening :: stack => exact .ok (.group opening :: stack, tree)
  | .negation mark :: stack => exact .ok (.negation mark :: stack, tree)
  | .join .and left mark :: stack => exact .ok (.join .and left mark :: stack, tree)
  | .join .or left mark :: stack =>
    have checked := limit.placed_check place (Tree.joined .or left tree) mark
    rw [← Tree.joined_placed increasing] at checked
    exact checked.bind fun joined => .ok (stack, joined)

end Frame

namespace Parser

variable {limit : DepthLimit} {stack : List Frame} {tree : Tree} {token : Token}

theorem placed_openLevel (limit : DepthLimit) (stack : List Frame) (frame : Frame) (token : Token) :
    (openLevel limit stack frame token).Placed place
      (openLevel limit (stack.map (Frame.placed place)) (frame.placed place) (token.placed place)) := by
  unfold openLevel
  rw [Frame.nesting_placed]
  split
  · exact .take (frame :: stack) .operand
  · exact .refuseAfter rfl

theorem placed_startOperand (limit : DepthLimit) (stack : List Frame) (token : Token) :
    (startOperand limit stack token).Placed place
      (startOperand limit (stack.map (Frame.placed place)) (token.placed place)) := by
  unfold startOperand
  rw [Token.kind_placed]
  split
  case h_1 => exact placed_openLevel limit stack (.negation token) token
  case h_2 => exact placed_openLevel limit stack (.group token) token
  case h_3 kind =>
    rw [Token.fieldName_placed (by simp [kind])]
    exact .take stack (.colon (.ofToken token))
  case h_4 kind =>
    rw [Token.value_placed (by simp [kind]), Token.isQuoted_placed (by simp [kind])]
    exact .take stack (.afterOperand (.leaf token.span (.wildcard token.value token.isQuoted)))
  case h_10 => exact .refuse rfl
  case h_11 => exact .refuse rfl
  case h_12 => exact .refuse (Problem.code_unexpected_placed token)
  all_goals
    next kind =>
    rw [Token.value_placed (by simp [kind])]
    exact .take stack (.afterOperand (.leaf token.span (.term token.value)))

theorem placed_endGroup (increasing : StrictMono place) (stack : List Frame) (tree : Tree)
    (token : Token) :
    (endGroup stack tree token).Placed place
      (endGroup (stack.map (Frame.placed place)) (tree.placed place) (token.placed place)) := by
  match stack with
  | [] | .negation _ :: _ | .join _ _ _ :: _ => exact .finish tree
  | .group opening :: stack =>
    rw [List.map_cons, Frame.placed, endGroup, endGroup, Token.kind_placed]
    by_cases closes : token.kind = .rightParen
    · rw [if_pos closes, if_pos closes]
      have widened : Span.upTo (place opening.span.position) ((token.span.placed place).stop) =
          (Span.upTo opening.span.position token.span.stop).placed place := by
        rw [Span.stop_placed increasing, Span.placed_upTo increasing]
      have closed := @Move.Placed.take place stack
        (.afterOperand (tree.withSpan (Span.upTo opening.span.position token.span.stop)))
      rw [Stage.placed, ← Tree.withSpan_placed, ← widened] at closed
      exact closed
    · rw [if_neg closes, if_neg closes]
      exact .refuse rfl

theorem placed_continueOperand (increasing : StrictMono place) (limit : DepthLimit)
    (stack : List Frame) (tree : Tree) (token : Token) :
    (continueOperand limit stack tree token).Placed place
      (continueOperand limit (stack.map (Frame.placed place)) (tree.placed place)
        (token.placed place)) := by
  refine .ofExcept (Frame.placed_closeConjunction increasing limit stack tree) ?_
  rintro ⟨stack, tree⟩
  simp only [Frame.placedWith, Token.kind_placed]
  split
  · exact .take (.join .and tree token :: stack) .operand
  · refine .ofExcept (Frame.placed_closeDisjunction increasing limit stack tree) ?_
    rintro ⟨stack, tree⟩
    exact .take (.join .or tree token :: stack) .operand
  · refine .ofExcept (Frame.placed_closeDisjunction increasing limit stack tree) ?_
    rintro ⟨stack, tree⟩
    exact placed_endGroup increasing stack tree token
  · refine .ofExcept (Frame.placed_closeDisjunction increasing limit stack tree) ?_
    rintro ⟨stack, tree⟩
    exact placed_endGroup increasing stack tree token
  · exact placed_startOperand limit (.join .and tree token :: stack) token

theorem placed_expectLiteral (field : FieldName) (token : Token) {next next' : Literal → Move}
    (each : ∀ value, (next value).Placed place (next' (value.placed place))) :
    (expectLiteral field token next).Placed place
      (expectLiteral (field.placed place) (token.placed place) next') := by
  unfold expectLiteral
  rw [Token.kind_placed]
  split
  case h_5 => exact .refuse rfl
  case h_6 => exact .refuse (Problem.code_unexpected_placed token)
  case h_7 => exact .refuse (Problem.code_unexpected_placed token)
  case h_8 => exact .refuse rfl
  all_goals
    next kind =>
    rw [Token.literal_placed (by simp [kind])]
    exact each (.ofToken token)

theorem placed_completeClause (increasing : StrictMono place) (field : FieldName) (stop : Nat)
    (clause : Clause FieldName Literal) :
    completeClause (field.placed place) (place stop) (clause.placed place) =
      (completeClause field stop clause).placed place := by
  rw [completeClause, completeClause, Stage.placed, Tree.placed, Span.placed_upTo increasing]
  rfl

theorem placed_step (increasing : StrictMono place) (limit : DepthLimit) (stack : List Frame)
    (stage : Stage) (token : Token) :
    (step limit stack stage token).Placed place
      (step limit (stack.map (Frame.placed place)) (stage.placed place) (token.placed place)) := by
  have stop (value : Literal) : (value.placed place).span.stop = place value.span.stop :=
    Span.stop_placed increasing value.span
  cases stage with
  | operand => exact placed_startOperand limit stack token
  | afterOperand tree => exact placed_continueOperand increasing limit stack tree token
  | colon field =>
    rw [Stage.placed, step, step, Token.kind_placed]
    split
    · exact .take stack (.clause field)
    · exact .refuseAfter (Problem.code_unexpected_placed token)
  | clause field =>
    rw [Stage.placed, step, step, Token.kind_placed]
    split
    · exact .take stack (.listOpening field)
    · exact .refuse rfl
    · next comparison _ => exact .take stack (.bound field comparison)
    · exact placed_expectLiteral field token fun value => .take stack (.afterValue field value)
  | bound field comparison =>
    rw [Stage.placed, step, step]
    refine placed_expectLiteral field token fun value => ?_
    rw [stop]
    exact placed_completeClause increasing field value.span.stop
      (.range field (.bound comparison) value none) ▸ .take stack _
  | afterValue field value =>
    rw [Stage.placed, step, step, Token.kind_placed]
    split
    · exact .take stack (.upperBound field value)
    · have placed := placed_continueOperand increasing limit stack
        (.leaf (Span.upTo field.span.position value.span.stop) (.equals field value)) token
      rw [Tree.placed, Span.placed_upTo increasing, ← stop] at placed
      exact placed
  | upperBound field lower =>
    rw [Stage.placed, step, step]
    refine placed_expectLiteral field token fun upper => ?_
    rw [stop]
    exact placed_completeClause increasing field upper.span.stop
      (.range field .between lower (some upper)) ▸ .take stack _
  | listOpening field =>
    rw [Stage.placed, step, step, Token.kind_placed]
    split
    · exact .take stack (.listValue field token [])
    · exact .refuseAfter rfl
  | listValue field opening values =>
    rw [Stage.placed, step, step, Token.kind_placed]
    simp only [List.map_eq_nil_iff]
    split
    · exact .refuse rfl
    · exact placed_expectLiteral field token fun value =>
        .take stack (.listSeparator field opening (value :: values))
  | listSeparator field opening values =>
    rw [Stage.placed, step, step, Token.kind_placed]
    split
    · exact .take stack (.listValue field opening values)
    · rw [← List.map_reverse, Token.span_placed, Span.stop_placed increasing]
      exact placed_completeClause increasing field token.span.stop
        (.member field values.reverse) ▸ .take stack _
    · exact .refuseAfter rfl

theorem placed_pass (token : Token) (later : List Token) :
    pass (token.placed place) (later.map (Token.placed place)) =
      (pass token later).map (Token.placed place) := by
  unfold pass
  rw [Token.kind_placed]
  split <;> rfl

/-- A whole run finds the moved tree, and leaves the same tokens. -/
theorem placed_run (increasing : StrictMono place) (limit : DepthLimit) (stack : List Frame)
    (stage : Stage) (tokens : List Token) :
    Placed (Tree.placed place) (run limit stack stage tokens).1
        (run limit (stack.map (Frame.placed place)) (stage.placed place)
          (tokens.map (Token.placed place))).1 ∧
      (run limit (stack.map (Frame.placed place)) (stage.placed place)
          (tokens.map (Token.placed place))).2 =
        (run limit stack stage tokens).2.map (Token.placed place) := by
  induction tokens generalizing stack stage with
  | nil => exact ⟨.error rfl, rfl⟩
  | cons token later ih =>
    have made := placed_step increasing limit stack stage token
    rw [List.map_cons, run, run]
    generalize step limit stack stage token = move at made ⊢
    generalize step limit _ _ (token.placed place) = move' at made ⊢
    cases made with
    | take stack stage => exact ih stack stage
    | finish tree => exact ⟨.ok tree, rfl⟩
    | refuse same => exact ⟨.error same, rfl⟩
    | refuseAfter same => exact ⟨.error same, placed_pass token later⟩

theorem kind_head_placed (place : Nat → Nat) (tokens : List Token) :
    ((tokens.map (Token.placed place)).headD (Token.atEnd 0)).kind =
      (tokens.headD (Token.atEnd 0)).kind := by
  cases tokens <;> rfl

theorem placed_expectEnd (limit : DepthLimit) (tokens : List Token) :
    Placed id (expectEnd ⟨tokens, limit⟩) (expectEnd ⟨tokens.map (Token.placed place), limit⟩) := by
  cases tokens with
  | nil => exact .ok ()
  | cons token later =>
    show Placed id (if token.kind = .endOfInput then _ else _)
      (if (token.placed place).kind = .endOfInput then _ else _)
    rw [Token.kind_placed]
    split
    · exact .ok ()
    · exact .error (Problem.code_unexpected_placed token)

end Parser

/-- Tokens that are put in other places have the tree that they had, put there, or they are refused
as they were. -/
theorem Tree.placed_ofTokens (increasing : StrictMono place) (limit : DepthLimit)
    (tokens : List Token) :
    Placed (Option.map (Tree.placed place)) (Tree.ofTokens limit tokens)
      (Tree.ofTokens limit (tokens.map (Token.placed place))) := by
  have head := Parser.kind_head_placed place tokens
  by_cases ended : (tokens.headD (Token.atEnd 0)).kind = .endOfInput
  · rw [Parser.ofTokens_of_ended ended, Parser.ofTokens_of_ended (head.trans ended)]
    exact .ok none
  · obtain ⟨found, left⟩ := Parser.placed_run increasing limit [] .operand tokens
    rw [Parser.ofTokens_of_run ended rfl, Parser.ofTokens_of_run (head.trans_ne ended) rfl]
    rw [List.map_nil, Stage.placed] at found left
    rw [left]
    exact found.bind fun tree => (Parser.placed_expectEnd limit _).map fun _ => rfl

/-! What is wrong with a tree is told of names and values, wherever they stand. -/

@[simp] theorem FieldName.name_placed (field : FieldName) : (field.placed place).name = field.name :=
  rfl

theorem FieldName.problems_placed (field : FieldName) :
    (field.placed place).problems = field.problems.map (Diagnostic.placed place) := by
  rw [problems, problems, List.map_append, name_placed]
  congr 1
  · split <;> rfl
  · cases Keyword.ofWord? field.name.toList <;> rfl

theorem Literal.listProblems_placed (value : Literal) :
    (value.placed place).listProblems = value.listProblems.map (Diagnostic.placed place) := by
  show (if value.text.toList.contains ',' then _ else _) = _
  unfold listProblems
  split <;> rfl

theorem Literal.typeProblems_placed (type : FieldType) (field : FieldName) (value : Literal) :
    (value.placed place).typeProblems type (field.placed place) =
      (value.typeProblems type field).map (Diagnostic.placed place) := by
  show (if type.accepts value.text.toList then _ else _) = _
  unfold typeProblems
  split <;> rfl

/-- Problems that are collected value by value. -/
theorem flatMap_placed {problems problems' : Literal → List Diagnostic}
    (each : ∀ value, problems' (value.placed place) = (problems value).map (Diagnostic.placed place))
    (values : List Literal) :
    (values.map (Literal.placed place)).flatMap problems' =
      (values.flatMap problems).map (Diagnostic.placed place) := by
  rw [List.flatMap_map, List.map_flatMap]
  exact List.flatMap_congr fun value _ => each value

namespace Clause

theorem field?_placed (clause : Clause FieldName Literal) :
    (clause.placed place).field? = clause.field?.map (FieldName.placed place) := by
  cases clause <;> rfl

theorem structuralProblems_placed (clause : Clause FieldName Literal) :
    (clause.placed place).structuralProblems =
      clause.structuralProblems.map (Diagnostic.placed place) := by
  cases clause with
  | term _ | wildcard _ _ => rfl
  | equals field _ | range field _ _ _ => exact field.problems_placed
  | member field values =>
    show (field.placed place).problems ++ _ = List.map _ (field.problems ++ _)
    rw [field.problems_placed, flatMap_placed Literal.listProblems_placed, List.map_append]

theorem typeProblems_placed (type : FieldType) (span : Span) (clause : Clause FieldName Literal) :
    (clause.placed place).typeProblems type (span.placed place) =
      (clause.typeProblems type span).map (Diagnostic.placed place) := by
  cases clause with
  | term _ | wildcard _ _ => rfl
  | equals field value => exact value.typeProblems_placed type field
  | member field values => exact flatMap_placed (Literal.typeProblems_placed type field) values
  | range field operator value upper =>
    have values : value.placed place :: (upper.map (Literal.placed place)).toList =
        (value :: upper.toList).map (Literal.placed place) := by
      cases upper <;> rfl
    show (if type.isOrdered then
      (value.placed place :: (upper.map (Literal.placed place)).toList).flatMap _ else _) = _
    rw [values, flatMap_placed (Literal.typeProblems_placed type field), typeProblems]
    split <;> rfl

theorem schemaProblems_placed (schema : Schema) (names : List String) (span : Span)
    (clause : Clause FieldName Literal) :
    (clause.placed place).schemaProblems schema names (span.placed place) =
      (clause.schemaProblems schema names span).map (Diagnostic.placed place) := by
  unfold schemaProblems
  rw [field?_placed]
  cases clause.field? with
  | none => rfl
  | some field =>
    simp only [Option.map_some, FieldName.name_placed]
    cases schema.lookup? field.name with
    | none => rfl
    | some declaration => exact clause.typeProblems_placed declaration.type span

end Clause

/-- An increasing map changes neither the order of the reports nor which of them are of one span. -/
theorem mergeDiagnostics_placed (increasing : StrictMono place)
    (structural schematic : List Diagnostic) :
    mergeDiagnostics (structural.map (Diagnostic.placed place))
        (schematic.map (Diagnostic.placed place)) =
      (mergeDiagnostics structural schematic).map (Diagnostic.placed place) := by
  have spans (d d' : Diagnostic) :
      (d.placed place).span = (d'.placed place).span ↔ d.span = d'.span :=
    Span.placed_inj increasing
  have order (d d' : Diagnostic) :
      (d.placed place).span.position ≤ (d'.placed place).span.position ↔
        d.span.position ≤ d'.span.position :=
    increasing.le_iff_le
  have shared (d : Diagnostic) :
      (d.placed place).sharesSpan (structural.map (Diagnostic.placed place)) =
        d.sharesSpan structural := by
    simp only [Diagnostic.sharesSpan, List.any_map, Function.comp_def, spans]
  rw [mergeDiagnostics_eq, mergeDiagnostics_eq, List.filter_map]
  simp only [Function.comp_def, shared]
  rw [← List.map_append, List.map_mergeSort]
  intro d _ d' _
  simp only [order]

namespace Tree

theorem leaves_placed (tree : Tree) :
    (tree.placed place).leaves =
      tree.leaves.map fun leaf => (leaf.1.placed place, leaf.2.placed place) := by
  induction tree with
  | leaf span clause => rfl
  | join connective span depth left right left_ih right_ih =>
    rw [placed, leaves, leaves, left_ih, right_ih, List.map_append]
  | negation span depth inner ih => exact ih

theorem problems_placed (increasing : StrictMono place) (schema : Schema) (tree : Tree) :
    (tree.placed place).problems schema = (tree.problems schema).map (Diagnostic.placed place) := by
  have structural : (tree.placed place).structuralProblems =
      tree.structuralProblems.map (Diagnostic.placed place) := by
    rw [structuralProblems, leaves_placed, List.flatMap_map, structuralProblems, List.map_flatMap]
    exact List.flatMap_congr fun leaf _ => leaf.2.structuralProblems_placed
  have schematic : (tree.placed place).schemaProblems schema =
      (tree.schemaProblems schema).map (Diagnostic.placed place) := by
    unfold schemaProblems
    split
    · rfl
    · rw [leaves_placed, List.flatMap_map, List.map_flatMap]
      exact List.flatMap_congr fun leaf _ =>
        leaf.2.schemaProblems_placed schema schema.names leaf.1
  rw [problems, structural, schematic, mergeDiagnostics_placed increasing, problems]

theorem expression_placed (schema : Schema) (tree : Tree) :
    (tree.placed place).expression schema = tree.expression schema := by
  unfold expression
  induction tree with
  | leaf span clause =>
    refine congrArg Formula.atom ?_
    cases clause with
    | term _ | wildcard _ _ | equals _ _ => rfl
    | range field operator value upper => cases upper <;> rfl
    | member field values =>
      show Clause.member _ ((values.map _).map _) = Clause.member _ (values.map _)
      rw [List.map_map]
      rfl
  | join connective span depth left right left_ih right_ih =>
    exact congrArg₂ (Formula.join connective) left_ih right_ih
  | negation span depth inner ih => exact congrArg Formula.negation ih

end Tree

end SearchBox
