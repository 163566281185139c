import SearchBox.Proofs.Grammar.Induction
import SearchBox.Proofs.Grammar.Soundness
import SearchBox.Proofs.Lexing.Tiling

/-! Where the parts of a tree stand in the text. The tokens of a text stand one behind the other, so a
part stands from its first token to its last, what it is made of stands inside it, and its operands
stand side by side. -/

namespace SearchBox

/-- The tokens stand one behind the other. -/
def Token.InOrder (tokens : List Token) : Prop :=
  tokens.Pairwise fun first second => first.span.stop ≤ second.span.position

theorem Token.InOrder.le {before after : List Token} {first second : Token}
    (ordered : InOrder (before ++ after)) (inBefore : first ∈ before) (inAfter : second ∈ after) :
    first.span.stop ≤ second.span.position :=
  (List.pairwise_append.1 ordered).2.2 first inBefore second inAfter

namespace Span

def Within (inner outer : Span) : Prop :=
  outer.position ≤ inner.position ∧ inner.stop ≤ outer.stop

theorem position_le_stop (span : Span) : span.position ≤ span.stop :=
  Nat.le_add_right _ _

theorem Within.refl (span : Span) : span.Within span :=
  ⟨Nat.le_refl _, Nat.le_refl _⟩

theorem Within.trans {inner middle outer : Span} (first : inner.Within middle)
    (second : middle.Within outer) : inner.Within outer :=
  ⟨Nat.le_trans second.1 first.1, Nat.le_trans first.2 second.2⟩

theorem stop_upTo {start stop : Nat} (forward : start ≤ stop) : (upTo start stop).stop = stop :=
  Nat.add_sub_cancel' forward

/-- The span runs from the front of the first token to the end of the last. -/
structure Encloses (span : Span) (tokens : List Token) : Prop where
  starts : ∃ first, tokens.head? = some first ∧ first.span.position = span.position
  ends : ∃ last, tokens.getLast? = some last ∧ last.span.stop = span.stop

namespace Encloses

variable {span left right : Span} {tokens before middle after : List Token}

theorem single (token : Token) : token.span.Encloses [token] :=
  ⟨⟨token, rfl, rfl⟩, ⟨token, rfl, rfl⟩⟩

/-- No token of the row stands out of the span. -/
theorem within (encloses : span.Encloses tokens) (ordered : Token.InOrder tokens) {token : Token}
    (member : token ∈ tokens) : token.span.Within span := by
  obtain ⟨⟨first, head, starts⟩, last, tail, ends⟩ := encloses
  constructor
  · obtain ⟨rest, rfl⟩ := List.head?_eq_some_iff.1 head
    rw [← starts]
    rcases List.mem_cons.1 member with rfl | inRest
    · exact Nat.le_refl _
    · exact Nat.le_trans first.span.position_le_stop
        ((List.pairwise_cons.1 ordered).1 token inRest)
  · obtain ⟨front, rfl⟩ := List.getLast?_eq_some_iff.1 tail
    rw [← ends]
    rcases List.mem_append.1 member with inFront | isLast
    · exact Nat.le_trans (Token.InOrder.le ordered inFront (by simp)) last.span.position_le_stop
    · exact Nat.le_of_eq (congrArg (Span.stop ∘ Token.span) (List.mem_singleton.1 isLast))

/-- What encloses a row in front of another ends before the other begins. -/
theorem stop_le (encloses : left.Encloses before) (encloses' : right.Encloses after)
    (ordered : Token.InOrder (before ++ (middle ++ after))) : left.stop ≤ right.position := by
  obtain ⟨last, tail, ends⟩ := encloses.ends
  obtain ⟨first, head, starts⟩ := encloses'.starts
  rw [← ends, ← starts]
  exact Token.InOrder.le ordered (List.mem_of_getLast? tail)
    (List.mem_append_right _ (List.mem_of_head? head))

theorem position_le_stop (encloses : left.Encloses before) (encloses' : right.Encloses after)
    (ordered : Token.InOrder (before ++ (middle ++ after))) : left.position ≤ right.stop :=
  calc left.position
    _ ≤ left.stop := left.position_le_stop
    _ ≤ right.position := encloses.stop_le encloses' ordered
    _ ≤ right.stop := right.position_le_stop

/-- The span from the front of one row to the end of another, with whatever stands between. -/
theorem upTo (encloses : left.Encloses before) (encloses' : right.Encloses after)
    (ordered : Token.InOrder (before ++ (middle ++ after))) :
    (Span.upTo left.position right.stop).Encloses (before ++ (middle ++ after)) := by
  have forward := encloses.position_le_stop encloses' ordered
  obtain ⟨first, head, starts⟩ := encloses.starts
  obtain ⟨last, tail, ends⟩ := encloses'.ends
  refine ⟨⟨first, ?_, starts⟩, last, ?_, by rw [ends, stop_upTo forward]⟩
  · rw [List.head?_append, head, Option.some_or]
  · rw [List.getLast?_append, List.getLast?_append, tail, Option.some_or, Option.some_or]

end Encloses

end Span

/-- The spans of the field of a clause and of its values. -/
def Clause.spans : Clause FieldName Literal → List Span
  | .term _ | .wildcard _ _ => []
  | .equals field value => [field.span, value.span]
  | .range field _ low high => field.span :: low.span :: high.toList.map Literal.span
  | .member field values => field.span :: values.map Literal.span

namespace Tree

/-- Everything in the tree stands inside what it is a part of, and of two operands the left one ends
before the right one begins. -/
def Nested : Tree → Prop
  | leaf span clause => ∀ part ∈ clause.spans, part.Within span
  | join _ span _ left right => left.span.Within span ∧ right.span.Within span ∧
      left.span.stop ≤ right.span.position ∧ left.Nested ∧ right.Nested
  | negation span _ inner => inner.span.Within span ∧ inner.Nested

@[simp] theorem span_withSpan (span : Span) (tree : Tree) : (tree.withSpan span).span = span := by
  cases tree <;> rfl

theorem Nested.withSpan {tree : Tree} (nested : tree.Nested) {span : Span}
    (wider : tree.span.Within span) : (tree.withSpan span).Nested := by
  cases tree with
  | leaf _ clause => exact fun part member => (nested part member).trans wider
  | join _ _ _ left right =>
    obtain ⟨inLeft, inRight, inner⟩ := nested
    exact ⟨inLeft.trans wider, inRight.trans wider, inner⟩
  | negation _ _ inner => exact ⟨nested.1.trans wider, nested.2⟩

/-- Clauses stand inside the tree, from left to right. -/
theorem Nested.leaves {tree : Tree} (nested : tree.Nested) :
    (∀ leaf ∈ tree.leaves, leaf.1.Within tree.span ∧ ∀ part ∈ leaf.2.spans, part.Within leaf.1) ∧
      tree.leaves.Pairwise fun first second => first.1.stop ≤ second.1.position := by
  induction tree with
  | leaf span clause => simpa [Tree.leaves, Tree.span] using ⟨Span.Within.refl span, nested⟩
  | join connective span depth left right leftIh rightIh =>
    obtain ⟨inLeft, inRight, apart, leftNested, rightNested⟩ := nested
    obtain ⟨leftLeaves, leftOrdered⟩ := leftIh leftNested
    obtain ⟨rightLeaves, rightOrdered⟩ := rightIh rightNested
    refine ⟨?_, List.pairwise_append.2 ⟨leftOrdered, rightOrdered, ?_⟩⟩
    · intro leaf member
      rcases List.mem_append.1 member with inside | inside
      · exact ⟨(leftLeaves leaf inside).1.trans inLeft, (leftLeaves leaf inside).2⟩
      · exact ⟨(rightLeaves leaf inside).1.trans inRight, (rightLeaves leaf inside).2⟩
    · intro first inFirst second inSecond
      exact Nat.le_trans (leftLeaves first inFirst).1.2
        (Nat.le_trans apart (rightLeaves second inSecond).1.1)
  | negation span depth inner ih =>
    obtain ⟨inSpan, innerNested⟩ := nested
    obtain ⟨leaves, ordered⟩ := ih innerNested
    exact ⟨fun leaf member => ⟨(leaves leaf member).1.trans inSpan, (leaves leaf member).2⟩, ordered⟩

end Tree

namespace Grammar

/-- The row of a clause ends where the clause is said to end. -/
theorem Body.encloses (body : Body) (ordered : Token.InOrder body.tokens) :
    ∃ span : Span, span.Encloses body.tokens ∧ span.stop = body.stop := by
  have toLast (first : Token) (middle : List Token) (last : Token)
      (ordered : Token.InOrder ([first] ++ (middle ++ [last]))) :
      ∃ span : Span, span.Encloses ([first] ++ (middle ++ [last])) ∧
        span.stop = last.span.stop := by
    have encloses := (Span.Encloses.single first).upTo (.single last) ordered
    obtain ⟨end', tail, ends⟩ := encloses.ends
    rw [← List.append_assoc, List.getLast?_concat, Option.some.injEq] at tail
    exact ⟨_, encloses, by rw [← ends, tail]⟩
  cases body with
  | equals value => exact ⟨value.val.span, .single value.val, rfl⟩
  | bound comparison mark value => exact toLast mark.val [] value.val ordered
  | between low dots high => exact toLast low.val [dots.val] high.val ordered
  | list word opening items closing => exact toLast word.val (opening.val :: items.tokens) closing.val ordered

theorem Items.spans (items : Items) :
    ∀ part ∈ items.literals.map Literal.span, ∃ token ∈ items.tokens, token.span = part := by
  intro part member
  simp only [literals, List.map_cons, List.map_map, List.mem_cons, List.mem_map,
    Function.comp_apply] at member
  rcases member with rfl | ⟨other, inside, rfl⟩
  · exact ⟨items.first.val, by simp [tokens], rfl⟩
  · refine ⟨other.2.val, ?_, rfl⟩
    exact List.mem_cons_of_mem _ (List.mem_flatMap.2 ⟨other, inside, by simp⟩)

/-- The parts of a clause are tokens of its row. -/
theorem Leaf.spans (leaf : Leaf) : ∀ clause ∈ leaf.tree.formula.atoms, ∀ part ∈ clause.spans,
    ∃ token ∈ leaf.tokens, token.span = part := by
  intro clause isClause part member
  cases leaf with
  | term token =>
    obtain rfl := List.mem_singleton.1 isClause
    cases member
  | wildcard token =>
    obtain rfl := List.mem_singleton.1 isClause
    cases member
  | onField field colon body =>
    obtain rfl := List.mem_singleton.1 isClause
    have inBody {token : Token} (inside : token ∈ body.tokens) :
        token ∈ (Leaf.onField field colon body).tokens := by
      simp [tokens, inside]
    have ofField : ∃ token ∈ (Leaf.onField field colon body).tokens,
        token.span = (FieldName.ofToken field.val).span := ⟨field.val, by simp [tokens], rfl⟩
    cases body with
    | equals value =>
      simp only [Body.clause, Clause.spans, List.mem_cons, List.not_mem_nil, or_false] at member
      rcases member with rfl | rfl
      · exact ofField
      · exact ⟨value.val, inBody (by simp [Body.tokens]), rfl⟩
    | bound comparison mark value =>
      simp only [Body.clause, Clause.spans, Option.toList_none, List.map_nil, List.mem_cons,
        List.not_mem_nil, or_false] at member
      rcases member with rfl | rfl
      · exact ofField
      · exact ⟨value.val, inBody (by simp [Body.tokens]), rfl⟩
    | between low dots high =>
      simp only [Body.clause, Clause.spans, Option.toList_some, List.map_cons, List.map_nil,
        List.mem_cons, List.not_mem_nil, or_false] at member
      rcases member with rfl | rfl | rfl
      · exact ofField
      · exact ⟨low.val, inBody (by simp [Body.tokens]), rfl⟩
      · exact ⟨high.val, inBody (by simp [Body.tokens]), rfl⟩
    | list word opening items closing =>
      rcases List.mem_cons.1 member with rfl | inItems
      · exact ofField
      · obtain ⟨token, inside, same⟩ := items.spans part inItems
        exact ⟨token, inBody (by simp [Body.tokens, inside]), same⟩

theorem Leaf.encloses (leaf : Leaf) (ordered : Token.InOrder leaf.tokens) :
    leaf.tree.span.Encloses leaf.tokens := by
  cases leaf with
  | term token => exact .single token.val
  | wildcard token => exact .single token.val
  | onField field colon body =>
    have sorted : Token.InOrder ([field.val] ++ ([colon.val] ++ body.tokens)) := ordered
    obtain ⟨span, encloses, stop⟩ := body.encloses
      ((List.pairwise_append.1 (List.pairwise_append.1 sorted).2.1).2.1)
    have whole := (Span.Encloses.single field.val).upTo encloses sorted
    rwa [stop] at whole

/-- Every part of a derivation stands from its first token to its last, with what it is made of
inside. -/
theorem Closed.nested : Closed fun tree tokens => Token.InOrder tokens →
    tree.span.Encloses tokens ∧ tree.Nested := by
  constructor
  · intro leaf ordered
    have encloses := leaf.encloses ordered
    refine ⟨encloses, ?_⟩
    have inside (clause) (isClause : clause ∈ leaf.tree.formula.atoms) :
        ∀ part ∈ clause.spans, part.Within leaf.tree.span := by
      intro part member
      obtain ⟨token, inside, rfl⟩ := leaf.spans clause isClause part member
      exact encloses.within ordered inside
    cases leaf <;> exact inside _ (List.mem_singleton.2 rfl)
  · intro connective left right before after mark _ leftNested rightNested ordered
    obtain ⟨inBefore, inRest, _⟩ := List.pairwise_append.1 ordered
    obtain ⟨leftEncloses, leftNested⟩ := leftNested inBefore
    obtain ⟨rightEncloses, rightNested⟩ := rightNested (List.pairwise_append.1 inRest).2.1
    have encloses := leftEncloses.upTo rightEncloses ordered
    have apart := leftEncloses.stop_le rightEncloses ordered
    have leftInside := left.span.position_le_stop
    have rightInside := right.span.position_le_stop
    have stop : (Span.upTo left.span.position right.span.stop).stop = right.span.stop :=
      Span.stop_upTo (by omega)
    refine ⟨encloses, ⟨Nat.le_refl _, by rw [stop]; omega⟩, ⟨?_, Nat.le_of_eq stop.symm⟩, apart,
      leftNested, rightNested⟩
    show left.span.position ≤ right.span.position
    omega
  · intro inner tokens mark nested ordered
    have sorted : Token.InOrder ([mark.val] ++ ([] ++ tokens)) := ordered
    obtain ⟨innerEncloses, innerNested⟩ := nested (List.pairwise_append.1 sorted).2.1
    have encloses := (Span.Encloses.single mark.val).upTo innerEncloses sorted
    have apart := (Span.Encloses.single mark.val).stop_le innerEncloses sorted
    have markInside := mark.val.span.position_le_stop
    have innerInside := inner.span.position_le_stop
    refine ⟨encloses, ⟨?_, ?_⟩, innerNested⟩
    · show mark.val.span.position ≤ inner.span.position
      omega
    · show inner.span.stop ≤ (Span.upTo mark.val.span.position inner.span.stop).stop
      exact Nat.le_of_eq (Span.stop_upTo (by omega)).symm
  · intro inner tokens opening closing nested ordered
    have sorted : Token.InOrder ([opening.val] ++ (tokens ++ [closing.val])) := ordered
    obtain ⟨_, inRest, _⟩ := List.pairwise_append.1 sorted
    obtain ⟨innerEncloses, innerNested⟩ := nested (List.pairwise_append.1 inRest).1
    have encloses := (Span.Encloses.single opening.val).upTo (.single closing.val) sorted
    refine ⟨by rw [Tree.span_withSpan]; exact encloses, innerNested.withSpan ?_⟩
    obtain ⟨first, head, starts⟩ := innerEncloses.starts
    obtain ⟨last, tail, ends⟩ := innerEncloses.ends
    have firstInside : first.span.Within _ :=
      encloses.within sorted (by simp [List.mem_of_head? head])
    have lastInside : last.span.Within _ :=
      encloses.within sorted (by simp [List.mem_of_getLast? tail])
    exact ⟨starts ▸ firstInside.1, ends ▸ lastInside.2⟩

/-- Fields and values take up room if the tokens do. -/
theorem Disjunction.spans_pos (part : Disjunction)
    (visible : ∀ token ∈ part.tokens, 0 < token.span.length) :
    ∀ clause ∈ part.tree.formula.atoms, ∀ span ∈ clause.spans, 0 < span.length := by
  refine part.forall_clauses _ (fun token => 0 < token.span.length) ?_ visible
  intro leaf visible clause isClause span member
  obtain ⟨token, inside, rfl⟩ := leaf.spans clause isClause span member
  exact visible token inside

/-- A tree that is found for a text has a derivation of the tokens of the text, which stand one behind
the other and take up room. -/
theorem derived_of_tokenize {limit : DepthLimit} {input : String} {tree : Tree}
    (found : Tree.ofTokens limit (tokenize input) = .ok (some tree)) :
    ∃ part : Disjunction, part.tree = tree ∧
      tokenize input = part.tokens ++ [Token.atEnd (byteWidth input.toList)] ∧
      Token.InOrder part.tokens ∧
      ∀ token ∈ part.tokens, token.kind ≠ .endOfInput ∧ 0 < token.span.length := by
  have tiles := Lexer.tiles_tokenize input
  obtain ⟨body, same, inside⟩ := tiles.ends
  rw [Nat.zero_add] at same
  rw [same] at found
  obtain ⟨part, rfl, made⟩ := derived_of_ofTokens inside found
  have ordered := tiles.ordered.2
  rw [same] at ordered
  refine ⟨part, made, same, (List.pairwise_append.1 ordered).1, ?_⟩
  intro token member
  have running := inside token member
  obtain ⟨visible, _, _, _, _, width⟩ :=
    tiles.covers token (same ▸ List.mem_append_left _ member) running
  exact ⟨running, width ▸ byteWidth_pos visible⟩

end Grammar

end SearchBox
