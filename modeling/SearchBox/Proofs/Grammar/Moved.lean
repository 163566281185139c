import SearchBox.Proofs.Lexing.Slices

/-! Derivations of a text that stands elsewhere. Where tokens stand plays no part in what they derive,
so the tree of tokens that are moved is the tree of those tokens, moved. -/

namespace SearchBox

theorem Span.moved_upTo (distance start stop : Nat) :
    upTo (start + distance) (stop + distance) = (upTo start stop).moved distance := by
  simp [upTo, moved, Nat.add_sub_add_right]

theorem Span.position_moved (distance : Nat) (span : Span) :
    (span.moved distance).position = span.position + distance :=
  rfl

theorem Span.stop_moved (distance : Nat) (span : Span) :
    (span.moved distance).stop = span.stop + distance :=
  Nat.add_right_comm _ _ _

def FieldName.moved (distance : Nat) (field : FieldName) : FieldName :=
  { field with span := field.span.moved distance }

def Literal.moved (distance : Nat) (value : Literal) : Literal :=
  { value with span := value.span.moved distance }

namespace Tree

/-- The tree with everything in it standing further back in the text. -/
def moved (distance : Nat) : Tree → Tree
  | leaf span clause =>
    leaf (span.moved distance) (clause.map (FieldName.moved distance) (Literal.moved distance))
  | join connective span depth left right =>
    join connective (span.moved distance) depth (left.moved distance) (right.moved distance)
  | negation span depth inner => negation (span.moved distance) depth (inner.moved distance)

variable (distance : Nat)

@[simp] theorem span_moved (tree : Tree) : (tree.moved distance).span = tree.span.moved distance := by
  cases tree <;> rfl

@[simp] theorem depth_moved (tree : Tree) : (tree.moved distance).depth = tree.depth := by
  cases tree <;> rfl

theorem moved_withSpan (span : Span) (tree : Tree) :
    (tree.withSpan span).moved distance = (tree.moved distance).withSpan (span.moved distance) := by
  cases tree <;> rfl

theorem moved_joined (connective : Connective) (left right : Tree) :
    (joined connective left right).moved distance =
      joined connective (left.moved distance) (right.moved distance) := by
  simp only [joined, moved, span_moved, depth_moved, Span.stop_moved, Span.position_moved,
    Span.moved_upTo]

theorem moved_negated (start : Nat) (inner : Tree) :
    (inner.negated start).moved distance = (inner.moved distance).negated (start + distance) := by
  simp only [negated, moved, span_moved, depth_moved, Span.stop_moved, Span.moved_upTo]

end Tree

namespace Grammar

variable {distance : Nat} {row : List Token}

/-- A token at the front of a moved row is one at the front of the row, of the same kind. -/
theorem exists_of_map_moved {holds : Token → Prop} {rest : List Token} (token : Subtype holds)
    (kept : ∀ other : Token, holds (other.moved distance) → holds other)
    (same : row.map (Token.moved distance) = token.val :: rest) :
    ∃ (token' : Subtype holds) (row' : List Token), row = token'.val :: row' ∧
      token'.val.moved distance = token.val ∧ row'.map (Token.moved distance) = rest := by
  obtain ⟨other, row', rfl, moved, later⟩ := List.map_eq_cons_iff.1 same
  exact ⟨⟨other, kept other (moved ▸ token.property)⟩, row', rfl, moved, later⟩

theorem Items.exists_of_map_moved (items : Items)
    (same : row.map (Token.moved distance) = items.tokens) :
    ∃ items' : Items, items'.tokens = row ∧
      items'.literals.map (Literal.moved distance) = items.literals := by
  obtain ⟨first, others⟩ := items
  obtain ⟨first', row', rfl, moved, later⟩ := Grammar.exists_of_map_moved first (fun _ => id) same
  suffices rest : ∃ others' : List (Mark .comma × ValueToken),
      (others'.flatMap fun other => [other.1.val, other.2.val]) = row' ∧
        (others'.map fun other => Literal.ofToken other.2.val).map (Literal.moved distance) =
          others.map fun other => .ofToken other.2.val by
    obtain ⟨others', tokens, literals⟩ := rest
    refine ⟨⟨first', others'⟩, by rw [Items.tokens, tokens], ?_⟩
    rw [Items.literals, List.map_cons, literals, Items.literals, ← moved]
    rfl
  clear same moved
  induction others generalizing row' with
  | nil =>
    obtain rfl := List.map_eq_nil_iff.1 later
    exact ⟨[], rfl, rfl⟩
  | cons other others ih =>
    obtain ⟨comma, value⟩ := other
    obtain ⟨comma', row₁, rfl, _, later⟩ := Grammar.exists_of_map_moved comma (fun _ => id) later
    obtain ⟨value', row₂, rfl, moved, later⟩ := Grammar.exists_of_map_moved value (fun _ => id) later
    obtain ⟨others', rfl, literals⟩ := ih row₂ later
    refine ⟨(comma', value') :: others', rfl, ?_⟩
    rw [List.map_cons, List.map_cons, literals, List.map_cons, ← moved]
    rfl

theorem Body.exists_of_map_moved (body : Body)
    (same : row.map (Token.moved distance) = body.tokens) :
    ∃ body' : Body, body'.tokens = row ∧ body'.stop + distance = body.stop ∧
      ∀ field, (body'.clause field).map (FieldName.moved distance) (Literal.moved distance) =
        body.clause (field.moved distance) := by
  cases body with
  | equals value =>
    obtain ⟨value', row', rfl, moved, later⟩ := Grammar.exists_of_map_moved value (fun _ => id) same
    obtain rfl := List.map_eq_nil_iff.1 later
    refine ⟨.equals value', rfl, ?_, ?_⟩
    · rw [Body.stop, Body.stop, ← moved]
      exact (Span.stop_moved _ _).symm
    · intro field
      rw [Body.clause, Body.clause, ← moved]
      rfl
  | bound comparison mark value =>
    obtain ⟨mark', row', rfl, _, later⟩ := Grammar.exists_of_map_moved mark (fun _ => id) same
    obtain ⟨value', row', rfl, moved, later⟩ := Grammar.exists_of_map_moved value (fun _ => id) later
    obtain rfl := List.map_eq_nil_iff.1 later
    refine ⟨.bound comparison mark' value', rfl, ?_, ?_⟩
    · rw [Body.stop, Body.stop, ← moved]
      exact (Span.stop_moved _ _).symm
    · intro field
      rw [Body.clause, Body.clause, ← moved]
      rfl
  | between low dots high =>
    obtain ⟨low', row', rfl, movedLow, later⟩ :=
      Grammar.exists_of_map_moved low (fun _ => id) same
    obtain ⟨dots', row', rfl, _, later⟩ := Grammar.exists_of_map_moved dots (fun _ => id) later
    obtain ⟨high', row', rfl, moved, later⟩ := Grammar.exists_of_map_moved high (fun _ => id) later
    obtain rfl := List.map_eq_nil_iff.1 later
    refine ⟨.between low' dots' high', rfl, ?_, ?_⟩
    · rw [Body.stop, Body.stop, ← moved]
      exact (Span.stop_moved _ _).symm
    · intro field
      rw [Body.clause, Body.clause, ← moved, ← movedLow]
      rfl
  | list word opening items closing =>
    obtain ⟨word', row', rfl, _, later⟩ := Grammar.exists_of_map_moved word (fun _ => id) same
    obtain ⟨opening', row', rfl, _, later⟩ := Grammar.exists_of_map_moved opening (fun _ => id) later
    obtain ⟨inner, ending, rfl, inside, last⟩ := List.map_eq_append_iff.1 later
    obtain ⟨items', rfl, literals⟩ := items.exists_of_map_moved inside
    obtain ⟨closing', row', rfl, moved, nothing⟩ :=
      Grammar.exists_of_map_moved closing (fun _ => id) last
    obtain rfl := List.map_eq_nil_iff.1 nothing
    refine ⟨.list word' opening' items' closing', rfl, ?_, ?_⟩
    · rw [Body.stop, Body.stop, ← moved]
      exact (Span.stop_moved _ _).symm
    · intro field
      rw [Body.clause, Body.clause, ← literals]
      rfl

theorem Leaf.exists_of_map_moved (leaf : Leaf)
    (same : row.map (Token.moved distance) = leaf.tokens) :
    ∃ leaf' : Leaf, leaf'.tokens = row ∧ leaf'.tree.moved distance = leaf.tree := by
  cases leaf with
  | term token =>
    obtain ⟨token', row', rfl, moved, later⟩ := Grammar.exists_of_map_moved token (fun _ => id) same
    obtain rfl := List.map_eq_nil_iff.1 later
    exact ⟨.term token', rfl, by rw [Leaf.tree, Leaf.tree, ← moved]; rfl⟩
  | wildcard token =>
    obtain ⟨token', row', rfl, moved, later⟩ := Grammar.exists_of_map_moved token (fun _ => id) same
    obtain rfl := List.map_eq_nil_iff.1 later
    exact ⟨.wildcard token', rfl, by rw [Leaf.tree, Leaf.tree, ← moved]; rfl⟩
  | onField field colon body =>
    obtain ⟨field', row', rfl, moved, later⟩ := Grammar.exists_of_map_moved field (fun _ => id) same
    obtain ⟨colon', row', rfl, _, later⟩ := Grammar.exists_of_map_moved colon (fun _ => id) later
    obtain ⟨body', rfl, stop, clause⟩ := body.exists_of_map_moved later
    refine ⟨.onField field' colon' body', rfl, ?_⟩
    rw [Leaf.tree, Leaf.tree, ← moved, ← stop, Tree.moved, clause, ← Span.moved_upTo]
    rfl

mutual

/-- If moving a row of tokens makes it one with a derivation, the row itself has a derivation, whose
tree when moved is the tree of the other. -/
theorem Disjunction.exists_of_map_moved {row : List Token} (part : Disjunction)
    (same : row.map (Token.moved distance) = part.tokens) :
    ∃ part' : Disjunction, part'.tokens = row ∧ part'.tree.moved distance = part.tree := by
  match part with
  | .mk first others =>
    rw [Disjunction.tokens] at same
    obtain ⟨row₁, row₂, rfl, inFirst, inOthers⟩ := List.map_eq_append_iff.1 same
    obtain ⟨first', rfl, tree⟩ := first.exists_of_map_moved inFirst
    obtain ⟨others', rfl, joined⟩ := others.exists_of_map_moved inOthers
    refine ⟨.mk first' others', by rw [Disjunction.tokens], ?_⟩
    rw [Disjunction.tree, joined, tree, Disjunction.tree]

theorem Disjuncts.exists_of_map_moved {row : List Token} (part : Disjuncts)
    (same : row.map (Token.moved distance) = part.tokens) :
    ∃ part' : Disjuncts, part'.tokens = row ∧
      ∀ left, (part'.joinedTo left).moved distance = part.joinedTo (left.moved distance) := by
  match part with
  | .none =>
    rw [Disjuncts.tokens] at same
    obtain rfl := List.map_eq_nil_iff.1 same
    exact ⟨.none, by rw [Disjuncts.tokens], fun left => by rw [Disjuncts.joinedTo, Disjuncts.joinedTo]⟩
  | .more mark next others =>
    rw [Disjuncts.tokens] at same
    obtain ⟨mark', row', rfl, _, later⟩ := Grammar.exists_of_map_moved mark (fun _ => id) same
    obtain ⟨row₁, row₂, rfl, inNext, inOthers⟩ := List.map_eq_append_iff.1 later
    obtain ⟨next', rfl, tree⟩ := next.exists_of_map_moved inNext
    obtain ⟨others', rfl, joined⟩ := others.exists_of_map_moved inOthers
    refine ⟨.more mark' next' others', by rw [Disjuncts.tokens], ?_⟩
    intro left
    rw [Disjuncts.joinedTo, joined, Tree.moved_joined, tree, Disjuncts.joinedTo]

theorem Conjunction.exists_of_map_moved {row : List Token} (part : Conjunction)
    (same : row.map (Token.moved distance) = part.tokens) :
    ∃ part' : Conjunction, part'.tokens = row ∧ part'.tree.moved distance = part.tree := by
  match part with
  | .mk first others =>
    rw [Conjunction.tokens] at same
    obtain ⟨row₁, row₂, rfl, inFirst, inOthers⟩ := List.map_eq_append_iff.1 same
    obtain ⟨first', rfl, tree⟩ := first.exists_of_map_moved inFirst
    obtain ⟨others', rfl, joined⟩ := others.exists_of_map_moved inOthers
    refine ⟨.mk first' others', by rw [Conjunction.tokens], ?_⟩
    rw [Conjunction.tree, joined, tree, Conjunction.tree]

theorem Conjuncts.exists_of_map_moved {row : List Token} (part : Conjuncts)
    (same : row.map (Token.moved distance) = part.tokens) :
    ∃ part' : Conjuncts, part'.tokens = row ∧
      ∀ left, (part'.joinedTo left).moved distance = part.joinedTo (left.moved distance) := by
  match part with
  | .none =>
    rw [Conjuncts.tokens] at same
    obtain rfl := List.map_eq_nil_iff.1 same
    exact ⟨.none, by rw [Conjuncts.tokens], fun left => by rw [Conjuncts.joinedTo, Conjuncts.joinedTo]⟩
  | .more mark next others =>
    rw [Conjuncts.tokens] at same
    obtain ⟨rowM, row', rfl, inMark, later⟩ := List.map_eq_append_iff.1 same
    obtain ⟨mark', marked⟩ : ∃ mark' : Option (Mark (.keyword .and)),
        (mark'.map Subtype.val).toList = rowM := by
      cases mark with
      | none => exact ⟨none, (List.map_eq_nil_iff.1 inMark).symm⟩
      | some mark =>
        obtain ⟨mark', nothing, rfl, _, ended⟩ :=
          Grammar.exists_of_map_moved mark (fun _ => id) inMark
        obtain rfl := List.map_eq_nil_iff.1 ended
        exact ⟨some mark', rfl⟩
    obtain ⟨row₁, row₂, rfl, inNext, inOthers⟩ := List.map_eq_append_iff.1 later
    obtain ⟨next', rfl, tree⟩ := next.exists_of_map_moved inNext
    obtain ⟨others', rfl, joined⟩ := others.exists_of_map_moved inOthers
    refine ⟨.more mark' next' others', by rw [Conjuncts.tokens, marked], ?_⟩
    intro left
    rw [Conjuncts.joinedTo, joined, Tree.moved_joined, tree, Conjuncts.joinedTo]

theorem Unary.exists_of_map_moved {row : List Token} (part : Unary)
    (same : row.map (Token.moved distance) = part.tokens) :
    ∃ part' : Unary, part'.tokens = row ∧ part'.tree.moved distance = part.tree := by
  match part with
  | .negation mark inner =>
    rw [Unary.tokens] at same
    obtain ⟨mark', row', rfl, moved, later⟩ := Grammar.exists_of_map_moved mark (fun _ => id) same
    obtain ⟨inner', rfl, tree⟩ := inner.exists_of_map_moved later
    refine ⟨.negation mark' inner', by rw [Unary.tokens], ?_⟩
    rw [Unary.tree, Tree.moved_negated, tree, Unary.tree, ← moved]
    rfl
  | .group opening inner closing =>
    rw [Unary.tokens] at same
    obtain ⟨opening', row', rfl, moved, later⟩ :=
      Grammar.exists_of_map_moved opening (fun _ => id) same
    obtain ⟨row₁, row₂, rfl, inside, last⟩ := List.map_eq_append_iff.1 later
    obtain ⟨inner', rfl, tree⟩ := inner.exists_of_map_moved inside
    obtain ⟨closing', nothing, rfl, moved', ended⟩ :=
      Grammar.exists_of_map_moved closing (fun _ => id) last
    obtain rfl := List.map_eq_nil_iff.1 ended
    refine ⟨.group opening' inner' closing', by rw [Unary.tokens], ?_⟩
    rw [Unary.tree, Tree.moved_withSpan, tree, Unary.tree, ← moved, ← moved']
    have widened := Span.moved_upTo distance opening'.val.span.position closing'.val.span.stop
    rw [← Span.stop_moved] at widened
    exact congrArg (Tree.withSpan · inner.tree) widened.symm
  | .leaf leaf =>
    rw [Unary.tokens] at same
    obtain ⟨leaf', rfl, tree⟩ := leaf.exists_of_map_moved same
    exact ⟨.leaf leaf', by rw [Unary.tokens], by rw [Unary.tree, tree, Unary.tree]⟩

end

end Grammar

end SearchBox
