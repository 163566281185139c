import SearchBox.Proofs.Canonical.Reading
import SearchBox.Proofs.Grammar.Moved

/-! The parts of a derivation that its tree is made of. Each tree inside the tree is that of a row of
tokens in the middle of the whole row, and the row begins where an operand does. -/

namespace SearchBox

theorem Tree.mem_subtrees_withSpan {span : Span} {tree node : Tree}
    (member : node ∈ (tree.withSpan span).subtrees) :
    node = tree.withSpan span ∨ node ∈ tree.subtrees := by
  cases tree with
  | leaf => exact .inl (List.mem_singleton.1 member)
  | join =>
    rcases List.mem_cons.1 member with rfl | inside
    · exact .inl rfl
    · exact .inr (List.mem_cons_of_mem _ inside)
  | negation =>
    rcases List.mem_cons.1 member with rfl | inside
    · exact .inl rfl
    · exact .inr (List.mem_cons_of_mem _ inside)

namespace Grammar

/-- An operand may begin behind the row if one may begin in front of it. -/
def LeavesOperand (row : List Token) : Prop :=
  ∀ context : LexicalContext, context.AtOperand → (context.through row).AtOperand

namespace LeavesOperand

theorem nil : LeavesOperand [] :=
  fun _ place => place

theorem append {first second : List Token} (left : LeavesOperand first)
    (right : LeavesOperand second) : LeavesOperand (first ++ second) := by
  intro context place
  rw [LexicalContext.through_append]
  exact right _ (left context place)

theorem single {token : Token} (neutral : LexicalContext.announces token.kind = false) :
    LeavesOperand [token] :=
  fun _ place => place.after neutral

theorem cons {token : Token} {row : List Token}
    (neutral : LexicalContext.announces token.kind = false) (later : LeavesOperand row) :
    LeavesOperand (token :: row) :=
  (single neutral).append later

end LeavesOperand

theorem Body.leavesOperand (body : Body) {context : LexicalContext}
    (colon : context.previous = some .colon) (outside : context.inList = false) :
    (context.through body.tokens).AtOperand := by
  cases body with
  | equals value => exact Lexer.atOperand_after_literal value.property outside (by simp [colon])
  | bound comparison mark value =>
    rw [Body.tokens, LexicalContext.through_cons, mark.property]
    exact Lexer.atOperand_after_literal value.property outside (by simp [LexicalContext.after])
  | between low dots high =>
    have still := (context.inList_after_of_isLiteral low.property).trans outside
    rw [Body.tokens, LexicalContext.through_cons, LexicalContext.through_cons, dots.property]
    exact Lexer.atOperand_after_literal high.property still (by simp [LexicalContext.after])
  | list word opening items closing =>
    have last : (context.through (Body.list word opening items closing).tokens) =
        (context.through (word.val :: opening.val :: items.tokens)).after closing.val.kind := by
      simp [Body.tokens]
    rw [last, closing.property]
    exact LexicalContext.atOperand_after_rightParen _

theorem Leaf.leavesOperand (leaf : Leaf) : LeavesOperand leaf.tokens := by
  cases leaf with
  | term token =>
    apply LeavesOperand.single
    rcases token.property with word | literal
    · rw [word]
      rfl
    · exact LexicalContext.announces_of_isLiteral literal
  | wildcard token => exact .single (by rw [token.property]; rfl)
  | onField field colon body =>
    intro context place
    have named : (context.after field.val.kind).AtOperand := place.after (by rw [field.property]; rfl)
    rw [Leaf.tokens, LexicalContext.through_cons, LexicalContext.through_cons, colon.property]
    exact body.leavesOperand rfl named.inList_eq

theorem Closed.leavesOperand : Closed fun _ tokens => LeavesOperand tokens := by
  constructor
  · exact Leaf.leavesOperand
  · intro connective left right before after mark kind leftLeaves rightLeaves
    apply leftLeaves.append
    cases mark with
    | none => exact rightLeaves
    | some token =>
      apply LeavesOperand.cons _ rightLeaves
      rcases kind token rfl with isAnd | isOr
      · rw [isAnd]
        rfl
      · rw [isOr]
        rfl
  · intro inner tokens mark leaves
    exact leaves.cons (by rw [mark.property]; rfl)
  · intro inner tokens opening closing leaves
    exact (leaves.append (.single (by rw [closing.property]; rfl))).cons (by rw [opening.property]; rfl)

/-- The last token of a derivation is not one whose kind comes from what stands behind it. -/
theorem Closed.free : Closed fun _ tokens => ∃ front last, tokens = front ++ [last] ∧
    last.kind ≠ .fieldName ∧ last.kind ≠ .keyword .isIn := by
  have ofLiteral {token : Token} (literal : token.kind.isLiteral = true) :
      token.kind ≠ .fieldName ∧ token.kind ≠ .keyword .isIn := by
    constructor <;> intro kind <;> simp [kind, Token.Kind.isLiteral] at literal
  constructor
  · intro leaf
    cases leaf with
    | term token =>
      refine ⟨[], token.val, rfl, ?_⟩
      rcases token.property with word | literal
      · simp [word]
      · exact ofLiteral literal
    | wildcard token => exact ⟨[], token.val, rfl, by simp [token.property]⟩
    | onField field colon body =>
      cases body with
      | equals value => exact ⟨[field.val, colon.val], value.val, rfl, ofLiteral value.property⟩
      | bound comparison mark value =>
        exact ⟨[field.val, colon.val, mark.val], value.val, rfl, ofLiteral value.property⟩
      | between low dots high =>
        exact ⟨[field.val, colon.val, low.val, dots.val], high.val, rfl, ofLiteral high.property⟩
      | list word opening items closing =>
        exact ⟨field.val :: colon.val :: word.val :: opening.val :: items.tokens, closing.val,
          rfl, by simp [closing.property]⟩
  · rintro connective left right before after mark _ _ ⟨front, last, rfl, free⟩
    exact ⟨before ++ (mark.toList ++ front), last, by simp, free⟩
  · rintro inner tokens mark ⟨front, last, rfl, free⟩
    exact ⟨mark.val :: front, last, rfl, free⟩
  · intro inner tokens opening closing _
    exact ⟨opening.val :: tokens, closing.val, rfl, by simp [closing.property]⟩

/-- The tree is that of a part of the row, and the part begins where an operand does. -/
def Occurs (node : Tree) (row : List Token) : Prop :=
  ∃ before, ∃ part : Disjunction, ∃ after, row = before ++ (part.tokens ++ after) ∧
    part.tree = node ∧ LeavesOperand before

theorem Occurs.whole (part : Disjunction) : Occurs part.tree part.tokens :=
  ⟨[], part, [], by simp, rfl, .nil⟩

theorem Occurs.inside {node : Tree} {before row : List Token} (occurs : Occurs node row)
    (leaves : LeavesOperand before) (after : List Token) : Occurs node (before ++ (row ++ after)) := by
  obtain ⟨front, part, back, rfl, tree, first⟩ := occurs
  exact ⟨before ++ front, part, back ++ after, by simp, tree, leaves.append first⟩

/-- Every tree inside the tree is that of a part of the row. -/
def Parted (tree : Tree) (row : List Token) : Prop :=
  ∀ node ∈ tree.subtrees, Occurs node row

theorem Parted.join {connective : Connective} {left right : Tree} {before marks after : List Token}
    (whole : Occurs (.joined connective left right) (before ++ (marks ++ after)))
    (leftParted : Parted left before) (rightParted : Parted right after)
    (leaves : LeavesOperand (before ++ marks)) :
    Parted (.joined connective left right) (before ++ (marks ++ after)) := by
  intro node member
  rcases List.mem_cons.1 member with rfl | inside
  · exact whole
  · rcases List.mem_append.1 inside with inLeft | inRight
    · exact (leftParted node inLeft).inside .nil (marks ++ after)
    · have occurs := (rightParted node inRight).inside leaves []
      rwa [List.append_nil, List.append_assoc] at occurs

mutual

theorem Disjunction.parted : (part : Disjunction) → Parted part.tree part.tokens
  | .mk first others => by
    have base : Parted (Disjuncts.joinedTo .none first.tree) (first.tokens ++ Disjuncts.tokens .none) := by
      rw [Disjuncts.joinedTo, Disjuncts.tokens, List.append_nil]
      exact first.parted
    have parted := Disjuncts.parted first .none others base
    rwa [Disjuncts.joinedTo, Disjuncts.tokens, List.nil_append] at parted

/-- A chain that is read up to some point is a part of the whole one. -/
theorem Disjuncts.parted (first : Conjunction) (front : Disjuncts) : (others : Disjuncts) →
    Parted (front.joinedTo first.tree) (first.tokens ++ front.tokens) →
      Parted (others.joinedTo (front.joinedTo first.tree))
        (first.tokens ++ (front.tokens ++ others.tokens))
  | .none, base => by
    rwa [Disjuncts.joinedTo, Disjuncts.tokens, List.append_nil]
  | .more mark next others, base => by
    have longer : Parted ((front.append mark next).joinedTo first.tree)
        (first.tokens ++ (front.append mark next).tokens) := by
      have whole := Occurs.whole (.mk first (front.append mark next))
      have leaves := Closed.leavesOperand.disjunction (.mk first front)
      have row : first.tokens ++ (front.append mark next).tokens =
          first.tokens ++ front.tokens ++ ([mark.val] ++ next.tokens) := by
        simp [Disjuncts.tokens_append]
      rw [Disjunction.tree, Disjunction.tokens, Disjuncts.joinedTo_append, row] at whole
      rw [Disjunction.tokens] at leaves
      rw [Disjuncts.joinedTo_append, row]
      exact .join whole base next.parted (leaves.append (.single (by rw [mark.property]; rfl)))
    have parted := Disjuncts.parted first (front.append mark next) others longer
    rw [Disjuncts.tokens_append, Disjuncts.joinedTo_append] at parted
    rw [Disjuncts.joinedTo, Disjuncts.tokens]
    simpa only [List.append_assoc, List.cons_append] using parted

theorem Conjunction.parted : (part : Conjunction) → Parted part.tree part.tokens
  | .mk first others => by
    have base : Parted (Conjuncts.joinedTo .none first.tree) (first.tokens ++ Conjuncts.tokens .none) := by
      rw [Conjuncts.joinedTo, Conjuncts.tokens, List.append_nil]
      exact first.parted
    have parted := Conjuncts.parted first .none others base
    rwa [Conjuncts.joinedTo, Conjuncts.tokens, List.nil_append] at parted

theorem Conjuncts.parted (first : Unary) (front : Conjuncts) : (others : Conjuncts) →
    Parted (front.joinedTo first.tree) (first.tokens ++ front.tokens) →
      Parted (others.joinedTo (front.joinedTo first.tree))
        (first.tokens ++ (front.tokens ++ others.tokens))
  | .none, base => by
    rwa [Conjuncts.joinedTo, Conjuncts.tokens, List.append_nil]
  | .more mark next others, base => by
    have longer : Parted ((front.append mark next).joinedTo first.tree)
        (first.tokens ++ (front.append mark next).tokens) := by
      have whole := Occurs.whole (.mk (.mk first (front.append mark next)) .none)
      have leaves := Closed.leavesOperand.conjunction (.mk first front)
      have row : first.tokens ++ (front.append mark next).tokens =
          first.tokens ++ front.tokens ++ ((mark.map Subtype.val).toList ++ next.tokens) := by
        simp [Conjuncts.tokens_append]
      have marked : LeavesOperand (mark.map Subtype.val).toList := by
        cases mark with
        | none => exact .nil
        | some mark => exact .single (by rw [mark.property]; rfl)
      rw [Disjunction.tree, Disjunction.tokens, Disjuncts.joinedTo, Disjuncts.tokens,
        List.append_nil, Conjunction.tree, Conjunction.tokens, Conjuncts.joinedTo_append, row] at whole
      rw [Conjunction.tokens] at leaves
      rw [Conjuncts.joinedTo_append, row]
      exact .join whole base next.parted (leaves.append marked)
    have parted := Conjuncts.parted first (front.append mark next) others longer
    rw [Conjuncts.tokens_append, Conjuncts.joinedTo_append] at parted
    rw [Conjuncts.joinedTo, Conjuncts.tokens]
    simpa only [List.append_assoc] using parted

theorem Unary.parted : (part : Unary) → Parted part.tree part.tokens
  | .negation mark inner => by
    intro node member
    have whole := Occurs.whole (Unary.negation mark inner).alone
    rw [Unary.tokens_alone, Unary.tree_alone] at whole
    rw [Unary.tree] at member
    rcases List.mem_cons.1 member with rfl | inside
    · rwa [Unary.tree] at whole
    · have occurs := (inner.parted node inside).inside (.single (by rw [mark.property]; rfl)) []
      rwa [List.append_nil] at occurs
  | .group opening inner closing => by
    intro node member
    have whole := Occurs.whole (Unary.group opening inner closing).alone
    rw [Unary.tokens_alone, Unary.tree_alone] at whole
    rw [Unary.tree] at member
    rcases Tree.mem_subtrees_withSpan member with rfl | inside
    · rwa [Unary.tree] at whole
    · rw [Unary.tokens]
      exact (inner.parted node inside).inside (.single (by rw [opening.property]; rfl)) [closing.val]
  | .leaf leaf => by
    intro node member
    have whole := Occurs.whole (Unary.leaf leaf).alone
    rw [Unary.tokens_alone, Unary.tree_alone] at whole
    rw [Unary.tree] at member whole
    have same : node = leaf.tree := by
      cases leaf <;> exact List.mem_singleton.1 member
    rwa [same]

end

end Grammar

end SearchBox
