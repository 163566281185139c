import SearchBox.Proofs.Grammar.Derivation

/-! What holds of the tree and the tokens of every part of a derivation, by one induction. -/

namespace SearchBox

namespace Tree

@[simp] theorem formula_withSpan (span : Span) (tree : Tree) :
    (tree.withSpan span).formula = tree.formula := by
  cases tree <;> rfl

@[simp] theorem depth_withSpan (span : Span) (tree : Tree) :
    (tree.withSpan span).depth = tree.depth := by
  cases tree <;> rfl

@[simp] theorem depth_joined (connective : Connective) (left right : Tree) :
    (joined connective left right).depth = 1 + max left.depth right.depth :=
  rfl

@[simp] theorem depth_negated (start : Nat) (inner : Tree) :
    (inner.negated start).depth = 1 + inner.depth :=
  rfl

@[simp] theorem formula_joined (connective : Connective) (left right : Tree) :
    (joined connective left right).formula = .join connective left.formula right.formula :=
  rfl

@[simp] theorem formula_negated (start : Nat) (inner : Tree) :
    (inner.negated start).formula = .negation inner.formula :=
  rfl

end Tree

/-- The grammar gives a second bound to `BETWEEN` and to nothing else, and to a list a value. -/
def Clause.Shaped {φ ν : Type} : Clause φ ν → Prop
  | .range _ operator _ upper => upper.isSome = true ↔ operator = .between
  | .member _ values => values ≠ []
  | _ => True

/-- The comparison that a clause is written with. -/
def Clause.comparison? {φ ν : Type} : Clause φ ν → Option Comparison
  | .range _ (.bound comparison) _ _ => some comparison
  | _ => none

def Token.comparison? (token : Token) : Option Comparison :=
  match token.kind with
  | .range (.bound comparison) => some comparison
  | _ => none

namespace Grammar

/-- The span of a group, from one parenthesis to the other. -/
def groupSpan (opening closing : Token) : Span :=
  ⟨opening.span.position, closing.span.stop - opening.span.position⟩

/-- A relation between trees and rows of tokens that leaves have and every rule keeps. The mark of a
join is missing where two operands stand next to each other. -/
structure Closed (holds : Tree → List Token → Prop) : Prop where
  leaf : ∀ leaf : Leaf, holds leaf.tree leaf.tokens
  join : ∀ (connective) {left right before after} (mark : Option Token),
    (∀ token ∈ mark, token.kind = .keyword .and ∨ token.kind = .keyword .or) →
    holds left before → holds right after →
    holds (.joined connective left right) (before ++ (mark.toList ++ after))
  negation : ∀ {inner tokens} (mark : Mark (.keyword .not)), holds inner tokens →
    holds (inner.negated mark.val.span.position) (mark.val :: tokens)
  group : ∀ {inner tokens} (opening : Mark .leftParen) (closing : Mark .rightParen),
    holds inner tokens → holds (inner.withSpan (groupSpan opening.val closing.val))
      (opening.val :: (tokens ++ [closing.val]))

namespace Closed

variable {holds : Tree → List Token → Prop}

mutual

theorem disjunction (closed : Closed holds) :
    (part : Disjunction) → holds part.tree part.tokens
  | .mk first others => by
    rw [Disjunction.tree, Disjunction.tokens]
    exact closed.disjuncts others (closed.conjunction first)

theorem disjuncts (closed : Closed holds) {left : Tree} {before : List Token} :
    (part : Disjuncts) → holds left before →
      holds (part.joinedTo left) (before ++ part.tokens)
  | .none, base => by
    rwa [Disjuncts.joinedTo, Disjuncts.tokens, List.append_nil]
  | .more mark next others, base => by
    have joined := closed.join .or (some mark.val)
      (by simp [mark.property]) base (closed.conjunction next)
    rw [Disjuncts.joinedTo, Disjuncts.tokens]
    simpa using closed.disjuncts others joined

theorem conjunction (closed : Closed holds) :
    (part : Conjunction) → holds part.tree part.tokens
  | .mk first others => by
    rw [Conjunction.tree, Conjunction.tokens]
    exact closed.conjuncts others (closed.unary first)

theorem conjuncts (closed : Closed holds) {left : Tree} {before : List Token} :
    (part : Conjuncts) → holds left before →
      holds (part.joinedTo left) (before ++ part.tokens)
  | .none, base => by
    rwa [Conjuncts.joinedTo, Conjuncts.tokens, List.append_nil]
  | .more mark next others, base => by
    have joined := closed.join .and (mark.map Subtype.val)
      (by
        intro token member
        obtain ⟨mark, _, rfl⟩ := Option.map_eq_some_iff.1 member
        exact .inl mark.property)
      base (closed.unary next)
    rw [Conjuncts.joinedTo, Conjuncts.tokens]
    simpa using closed.conjuncts others joined

theorem unary (closed : Closed holds) : (part : Unary) → holds part.tree part.tokens
  | .negation mark inner => by
    rw [Unary.tree, Unary.tokens]
    exact closed.negation mark (closed.unary inner)
  | .group opening inner closing => by
    rw [Unary.tree, Unary.tokens]
    exact closed.group opening closing (closed.disjunction inner)
  | .leaf leaf => by
    rw [Unary.tree, Unary.tokens]
    exact closed.leaf leaf

end

end Closed

/-- The depth counted on the way is the depth of the formula. -/
theorem Closed.depth : Closed fun tree _ => tree.depth = tree.formula.depth := by
  constructor
  · intro leaf
    cases leaf <;> rfl
  · intro connective left right before after mark kind leftDepth rightDepth
    simp [Formula.depth, leftDepth, rightDepth]
  · intro inner tokens mark innerDepth
    simp [Formula.depth, innerDepth]
  · intro inner tokens opening closing innerDepth
    simpa using innerDepth

theorem Unary.depth_tree (part : Unary) : part.tree.depth = part.tree.formula.depth :=
  Closed.depth.unary part

variable (part : Disjunction)

theorem Disjunction.depth_tree : part.tree.depth = part.tree.formula.depth :=
  Closed.depth.disjunction part

/-- The clauses from left to right are those of the leaves. -/
theorem Disjunction.forall_clauses (holds : Clause FieldName Literal → Prop)
    (admits : Token → Prop)
    (leaves : ∀ leaf : Leaf, (∀ token ∈ leaf.tokens, admits token) →
      ∀ clause ∈ leaf.tree.formula.atoms, holds clause)
    (all : ∀ token ∈ part.tokens, admits token) :
    ∀ clause ∈ part.tree.formula.atoms, holds clause := by
  have closed : Closed fun tree tokens => (∀ token ∈ tokens, admits token) →
      ∀ clause ∈ tree.formula.atoms, holds clause := by
    constructor
    · exact leaves
    · intro connective left right before after mark kind leftHolds rightHolds all clause member
      rcases List.mem_append.1 member with inLeft | inRight
      · exact leftHolds (fun token inside => all token (by simp [inside])) clause inLeft
      · exact rightHolds (fun token inside => all token (by simp [inside])) clause inRight
    · intro inner tokens mark innerHolds all
      exact innerHolds fun token inside => all token (by simp [inside])
    · intro inner tokens opening closing innerHolds all
      rw [Tree.formula_withSpan]
      exact innerHolds fun token inside => all token (by simp [inside])
  exact closed.disjunction part all

theorem Disjunction.shaped : ∀ clause ∈ part.tree.formula.atoms, clause.Shaped := by
  refine part.forall_clauses Clause.Shaped (fun _ => True) ?_ (fun _ _ => trivial)
  intro leaf _ clause member
  cases leaf with
  | term token => obtain rfl := List.mem_singleton.1 member; trivial
  | wildcard token => obtain rfl := List.mem_singleton.1 member; trivial
  | onField field colon body =>
    obtain rfl := List.mem_singleton.1 member
    cases body <;> simp [Body.clause, Clause.Shaped, Items.literals]

theorem comparison?_of_isLiteral {token : Token} (literal : token.kind.isLiteral = true) :
    token.comparison? = none := by
  unfold Token.comparison?
  split
  · next kind => simp [kind, Token.Kind.isLiteral] at literal
  · rfl

theorem Items.comparisons (items : Items) : items.tokens.filterMap Token.comparison? = [] := by
  obtain ⟨first, others⟩ := items
  rw [tokens, List.filterMap_cons_none (comparison?_of_isLiteral first.property),
    List.filterMap_eq_nil_iff]
  intro token member
  obtain ⟨⟨comma, value⟩, _, inside⟩ := List.mem_flatMap.1 member
  simp only [List.mem_cons, List.not_mem_nil, or_false] at inside
  rcases inside with rfl | rfl
  · simp [Token.comparison?, comma.property]
  · exact comparison?_of_isLiteral value.property

/-- The symbols among the tokens are those of the clauses, in their order. -/
theorem Leaf.comparisons (leaf : Leaf) : leaf.tokens.filterMap Token.comparison? =
    leaf.tree.formula.atoms.filterMap Clause.comparison? := by
  cases leaf with
  | term token =>
    have none : token.val.comparison? = none := by
      rcases token.property with word | literal
      · simp [Token.comparison?, word]
      · exact comparison?_of_isLiteral literal
    simp [tokens, none, tree, Tree.formula, Formula.atoms, Clause.comparison?]
  | wildcard token =>
    simp [tokens, Token.comparison?, token.property, tree, Tree.formula, Formula.atoms,
      Clause.comparison?]
  | onField field colon body =>
    have front : (tokens (.onField field colon body)).filterMap Token.comparison? =
        body.tokens.filterMap Token.comparison? := by
      simp [tokens, Token.comparison?, field.property, colon.property]
    rw [front]
    cases body with
    | equals value =>
      simp [Body.tokens, comparison?_of_isLiteral value.property, tree, Tree.formula,
        Formula.atoms, Body.clause, Clause.comparison?]
    | bound comparison mark value =>
      have here : mark.val.comparison? = some comparison := by
        simp [Token.comparison?, mark.property]
      simp [Body.tokens, here, comparison?_of_isLiteral value.property, tree, Tree.formula,
        Formula.atoms, Body.clause, Clause.comparison?]
    | between low dots high =>
      have none : dots.val.comparison? = none := by
        simp [Token.comparison?, dots.property]
      simp [Body.tokens, none, comparison?_of_isLiteral low.property,
        comparison?_of_isLiteral high.property, tree, Tree.formula, Formula.atoms, Body.clause,
        Clause.comparison?]
    | list word opening items closing =>
      have none : word.val.comparison? = none ∧ opening.val.comparison? = none ∧
          closing.val.comparison? = none := by
        simp [Token.comparison?, word.property, opening.property, closing.property]
      simp [Body.tokens, none, items.comparisons, tree, Tree.formula, Formula.atoms, Body.clause,
        Clause.comparison?]

theorem Closed.comparisons : Closed fun tree tokens => tokens.filterMap Token.comparison? =
    tree.formula.atoms.filterMap Clause.comparison? := by
  constructor
  · exact Leaf.comparisons
  · intro connective left right before after mark kind leftSame rightSame
    have none : mark.toList.filterMap Token.comparison? = [] := by
      rw [List.filterMap_eq_nil_iff]
      intro token member
      rcases kind token (by simpa using member) with isAnd | isOr
      · simp [Token.comparison?, isAnd]
      · simp [Token.comparison?, isOr]
    simp [Formula.atoms, leftSame, rightSame, none]
  · intro inner tokens mark innerSame
    simp [Formula.atoms, innerSame, Token.comparison?, mark.property]
  · intro inner tokens opening closing innerSame
    simp [innerSame, Token.comparison?, opening.property, closing.property]

end Grammar

end SearchBox
