import Mathlib.Data.Subtype
import SearchBox.Proofs.Grammar.Soundness

/-! The grammar is unambiguous, and it is the language of the parser. No part of a derivation can end
at two places of one row of tokens: what may follow a part never continues it. -/

namespace SearchBox.Grammar

theorem Items.unique (first second : Items) (closing closing' : Mark .rightParen)
    {rest rest' : List Token}
    (same : first.tokens ++ closing.val :: rest = second.tokens ++ closing'.val :: rest') :
    first = second ∧ closing = closing' ∧ rest = rest' := by
  obtain ⟨value, others⟩ := first
  obtain ⟨value', others'⟩ := second
  simp only [Items.tokens, List.cons_append, List.cons.injEq, ← Subtype.ext_iff] at same
  obtain ⟨rfl, same⟩ := same
  suffices others = others' ∧ closing = closing' ∧ rest = rest' by
    obtain ⟨rfl, rfl, rfl⟩ := this
    exact ⟨rfl, rfl, rfl⟩
  have differ (comma : Mark .comma) (closing : Mark .rightParen) : comma.val ≠ closing.val := by
    intro equal
    have kinds := comma.property.symm.trans (equal ▸ closing.property)
    cases kinds
  induction others generalizing others' with
  | nil =>
    cases others' with
    | nil =>
      simp only [List.flatMap_nil, List.nil_append, List.cons.injEq, ← Subtype.ext_iff] at same
      exact ⟨rfl, same⟩
    | cons other others' =>
      simp only [List.flatMap_nil, List.nil_append, List.flatMap_cons, List.cons_append,
        List.cons.injEq] at same
      exact (differ _ _ same.1.symm).elim
  | cons other others ih =>
    cases others' with
    | nil =>
      simp only [List.flatMap_nil, List.nil_append, List.flatMap_cons, List.cons_append,
        List.cons.injEq] at same
      exact (differ _ _ same.1).elim
    | cons other' others' =>
      simp only [List.flatMap_cons, List.cons_append, List.nil_append, List.cons.injEq,
        ← Subtype.ext_iff] at same
      obtain ⟨rfl, ends⟩ := ih others' same.2.2
      exact ⟨by rw [Prod.ext same.1 same.2.1], ends⟩

theorem Body.unique (first second : Body) {rest rest' : List Token} (closed : NoDots rest)
    (closed' : NoDots rest') (same : first.tokens ++ rest = second.tokens ++ rest') :
    first = second ∧ rest = rest' := by
  -- Two bodies of different rules differ in the kind of one of their first two tokens.
  cases first with
  | equals value => cases second <;> grind [tokens, Token.Kind.isLiteral, Ahead]
  | bound comparison mark value => cases second <;> grind [tokens, Token.Kind.isLiteral]
  | between low dots high => cases second <;> grind [tokens, Token.Kind.isLiteral, Ahead]
  | list word opening items closing =>
    cases second <;> grind [tokens, Token.Kind.isLiteral, Items.unique]

theorem Leaf.unique (first second : Leaf) {rest rest' : List Token} (closed : NoDots rest)
    (closed' : NoDots rest') (same : first.tokens ++ rest = second.tokens ++ rest') :
    first = second ∧ rest = rest' := by
  cases first with
  | term token => cases second <;> grind [tokens, Token.Kind.isLiteral]
  | wildcard token => cases second <;> grind [tokens, Token.Kind.isLiteral]
  | onField field colon body =>
    cases second <;> grind [tokens, Token.Kind.isLiteral, Body.unique]

/-- The kinds of tokens that end an expression. -/
def endsExpression : Token.Kind → Bool
  | .rightParen | .endOfInput => true
  | _ => false

theorem endsConjunction_of_endsExpression {rest : List Token}
    (ends : Ahead (endsExpression · = true) rest) : Ahead (endsConjunction · = true) rest := by
  obtain ⟨token, later, rfl, kind⟩ := ends
  refine ⟨token, later, rfl, ?_⟩
  unfold endsExpression at kind
  split at kind
  · simp only [‹token.kind = _›, endsConjunction]
  · simp only [‹token.kind = _›, endsConjunction]
  · cases kind

theorem endsConjunction_of_startsOperand {kind : Token.Kind} (starts : startsOperand kind = true) :
    endsConjunction kind = false := by
  unfold endsConjunction
  split <;> simp_all [startsOperand, Token.Kind.isLiteral]

/-- What begins one more operand of a chain cannot end the chain. -/
theorem Conjuncts.not_ends_more (mark : Option (Mark (.keyword .and))) (next : Unary)
    (others : Conjuncts) (rest : List Token) :
    ¬Ahead (endsConjunction · = true) ((Conjuncts.more mark next others).tokens ++ rest) := by
  rintro ⟨token, later, same, ends⟩
  simp only [Conjuncts.tokens, List.append_assoc] at same
  cases mark with
  | some mark =>
    simp only [Option.map_some, Option.toList_some, List.singleton_append, List.cons.injEq] at same
    simp [← same.1, mark.property, endsConjunction] at ends
  | none =>
    obtain ⟨first, after, begins, starts⟩ := next.ahead (others.tokens ++ rest)
    simp only [Option.map_none, Option.toList_none, List.nil_append, begins,
      List.cons.injEq] at same
    rw [← same.1, endsConjunction_of_startsOperand starts] at ends
    cases ends

theorem Disjuncts.not_ends_more (mark : Mark (.keyword .or)) (next : Conjunction)
    (others : Disjuncts) (rest : List Token) :
    ¬Ahead (endsExpression · = true) ((Disjuncts.more mark next others).tokens ++ rest) := by
  rintro ⟨token, later, same, ends⟩
  simp only [Disjuncts.tokens, List.cons_append, List.cons.injEq] at same
  simp [← same.1, mark.property, endsExpression] at ends

/-! What follows a part is told apart from every token that could continue it, so of two derivations
of one row the first parts are the same, and then what is left of the row. -/

mutual

theorem Disjunction.unique (first second : Disjunction) {rest rest' : List Token}
    (ends : Ahead (endsExpression · = true) rest) (ends' : Ahead (endsExpression · = true) rest')
    (same : first.tokens ++ rest = second.tokens ++ rest') : first = second ∧ rest = rest' := by
  match first, second with
  | .mk first others, .mk second others' =>
    simp only [Disjunction.tokens, List.append_assoc] at same
    obtain ⟨rfl, later⟩ := first.unique second
      (others.ahead (endsConjunction_of_endsExpression ends))
      (others'.ahead (endsConjunction_of_endsExpression ends')) same
    obtain ⟨rfl, last⟩ := others.unique others' ends ends' later
    exact ⟨rfl, last⟩

theorem Disjuncts.unique (first second : Disjuncts) {rest rest' : List Token}
    (ends : Ahead (endsExpression · = true) rest) (ends' : Ahead (endsExpression · = true) rest')
    (same : first.tokens ++ rest = second.tokens ++ rest') : first = second ∧ rest = rest' := by
  match first, second with
  | .none, .none => exact ⟨rfl, same⟩
  | .none, .more mark next others => exact (Disjuncts.not_ends_more mark next others rest' (same ▸ ends)).elim
  | .more mark next others, .none =>
    exact (Disjuncts.not_ends_more mark next others rest (same.symm ▸ ends')).elim
  | .more mark next others, .more mark' next' others' =>
    simp only [Disjuncts.tokens, List.cons_append, List.append_assoc, List.cons.injEq,
      ← Subtype.ext_iff] at same
    obtain ⟨rfl, after⟩ := same
    obtain ⟨rfl, later⟩ := next.unique next'
      (others.ahead (endsConjunction_of_endsExpression ends))
      (others'.ahead (endsConjunction_of_endsExpression ends')) after
    obtain ⟨rfl, last⟩ := others.unique others' ends ends' later
    exact ⟨rfl, last⟩

theorem Conjunction.unique (first second : Conjunction) {rest rest' : List Token}
    (ends : Ahead (endsConjunction · = true) rest) (ends' : Ahead (endsConjunction · = true) rest')
    (same : first.tokens ++ rest = second.tokens ++ rest') : first = second ∧ rest = rest' := by
  match first, second with
  | .mk first others, .mk second others' =>
    simp only [Conjunction.tokens, List.append_assoc] at same
    obtain ⟨rfl, later⟩ := first.unique second
      (others.noDots (.of_endsConjunction ends)) (others'.noDots (.of_endsConjunction ends')) same
    obtain ⟨rfl, last⟩ := others.unique others' ends ends' later
    exact ⟨rfl, last⟩

theorem Conjuncts.unique (first second : Conjuncts) {rest rest' : List Token}
    (ends : Ahead (endsConjunction · = true) rest) (ends' : Ahead (endsConjunction · = true) rest')
    (same : first.tokens ++ rest = second.tokens ++ rest') : first = second ∧ rest = rest' := by
  match first, second with
  | .none, .none => exact ⟨rfl, same⟩
  | .none, .more mark next others => exact (Conjuncts.not_ends_more mark next others rest' (same ▸ ends)).elim
  | .more mark next others, .none =>
    exact (Conjuncts.not_ends_more mark next others rest (same.symm ▸ ends')).elim
  | .more mark next others, .more mark' next' others' =>
    simp only [Conjuncts.tokens, List.append_assoc] at same
    have marks : mark = mark' ∧
        next.tokens ++ (others.tokens ++ rest) = next'.tokens ++ (others'.tokens ++ rest') := by
      obtain ⟨token, after, begins, starts⟩ := next.ahead (others.tokens ++ rest)
      obtain ⟨token', after', begins', starts'⟩ := next'.ahead (others'.tokens ++ rest')
      cases mark <;> cases mark' <;> grind [startsOperand, Token.Kind.isLiteral]
    obtain ⟨rfl, after⟩ := marks
    obtain ⟨rfl, later⟩ := next.unique next' (others.noDots (.of_endsConjunction ends))
      (others'.noDots (.of_endsConjunction ends')) after
    obtain ⟨rfl, last⟩ := others.unique others' ends ends' later
    exact ⟨rfl, last⟩

theorem Unary.unique (first second : Unary) {rest rest' : List Token} (closed : NoDots rest)
    (closed' : NoDots rest') (same : first.tokens ++ rest = second.tokens ++ rest') :
    first = second ∧ rest = rest' := by
  match first, second with
  | .leaf leaf, .leaf leaf' =>
    obtain ⟨rfl, last⟩ := leaf.unique leaf' closed closed' same
    exact ⟨rfl, last⟩
  | .negation mark inner, .negation mark' inner' =>
    simp only [Unary.tokens, List.cons_append, List.cons.injEq, ← Subtype.ext_iff] at same
    obtain ⟨rfl, after⟩ := same
    obtain ⟨rfl, last⟩ := inner.unique inner' closed closed' after
    exact ⟨rfl, last⟩
  | .group opening inner closing, .group opening' inner' closing' =>
    simp only [Unary.tokens, List.cons_append, List.append_assoc, List.nil_append,
      List.cons.injEq, ← Subtype.ext_iff] at same
    obtain ⟨rfl, after⟩ := same
    obtain ⟨rfl, later⟩ := inner.unique inner' ⟨closing.val, rest, rfl, by rw [closing.property]; rfl⟩
      ⟨closing'.val, rest', rfl, by rw [closing'.property]; rfl⟩ after
    simp only [List.cons.injEq, ← Subtype.ext_iff] at later
    obtain ⟨rfl, last⟩ := later
    exact ⟨rfl, last⟩
  | .negation _ _, .group _ _ _ | .group _ _ _, .negation _ _ => grind [Unary.tokens]
  | .negation _ _, .leaf leaf | .group _ _ _, .leaf leaf =>
    cases leaf <;> grind [Unary.tokens, Leaf.tokens, Token.Kind.isLiteral]
  | .leaf leaf, .negation _ _ | .leaf leaf, .group _ _ _ =>
    cases leaf <;> grind [Unary.tokens, Leaf.tokens, Token.Kind.isLiteral]

end

theorem ofTokens_cons_ne_none {limit : DepthLimit} {token : Token} {later : List Token}
    (running : token.kind ≠ .endOfInput) : Tree.ofTokens limit (token :: later) ≠ .ok none := by
  intro nothing
  rw [Tree.ofTokens, Parser.parse, if_neg (by simpa [Parser.ahead] using running)] at nothing
  cases run : Parser.run limit [] .operand (token :: later) with
  | mk outcome rest =>
    simp only [run, Parser.expectEnd] at nothing
    cases outcome with
    | error => cases nothing
    | ok tree =>
      simp only [Except.map, bind, Except.bind, pure, Except.pure] at nothing
      split at nothing <;> cases nothing

/-- The parser and the grammar agree on every row of tokens with one end of input, at its end,
wherever the tokens stand in a text. Without a limit there is nothing to read exactly if the row is
that end alone, and there is a tree exactly if the tokens before the end have a derivation. They have
at most one, and the tree is its tree. -/
theorem ofTokens_iff_derived (body : List Token) (ending : Token)
    (inside : ∀ token ∈ body, token.kind ≠ .endOfInput) (ends : ending.kind = .endOfInput) :
    (Tree.ofTokens none (body ++ [ending]) = .ok none ↔ body = []) ∧
      (∀ tree, Tree.ofTokens none (body ++ [ending]) = .ok (some tree) ↔
        ∃ derivation : Disjunction, derivation.tokens = body ∧ derivation.tree = tree) ∧
      ∀ first second : Disjunction, first.tokens = body → second.tokens = body → first = second := by
  refine ⟨⟨fun nothing => ?_, ?_⟩, fun tree => ⟨derived_of_ofTokens inside, ?_⟩, ?_⟩
  · cases body with
    | nil => rfl
    | cons token body => exact (ofTokens_cons_ne_none (inside token (by simp)) nothing).elim
  · rintro rfl
    exact Parser.ofTokens_of_ended ends
  · rintro ⟨derivation, rfl, rfl⟩
    exact ofTokens_derived derivation ends rfl (by cases derivation.tree <;> rfl)
  · intro first second derives derives'
    have ahead : Ahead (endsExpression · = true) [ending] := ⟨ending, [], rfl, by rw [ends]; rfl⟩
    exact (first.unique second ahead ahead (by rw [derives, derives'])).1

/-- The row of `a OR NOT (b c)`: the group takes the span of its parentheses, and the missing `AND`
binds tighter than the `OR`. -/
theorem derived_negated_group :
    let body : List Token := [⟨.word, "a", ⟨0, 1⟩⟩, ⟨.keyword .or, "OR", ⟨2, 2⟩⟩,
      ⟨.keyword .not, "NOT", ⟨5, 3⟩⟩, ⟨.leftParen, "(", ⟨9, 1⟩⟩, ⟨.word, "b", ⟨10, 1⟩⟩,
      ⟨.word, "c", ⟨12, 1⟩⟩, ⟨.rightParen, ")", ⟨13, 1⟩⟩]
    let tree : Tree := .join .or ⟨0, 14⟩ 4 (.leaf ⟨0, 1⟩ (.term "a"))
      (.negation ⟨5, 9⟩ 3 (.join .and ⟨9, 5⟩ 2 (.leaf ⟨10, 1⟩ (.term "b"))
        (.leaf ⟨12, 1⟩ (.term "c"))))
    (∀ token ∈ body, token.kind ≠ .endOfInput) ∧ (Token.atEnd 14).kind = .endOfInput ∧
      ∃ derivation : Disjunction, derivation.tokens = body ∧ derivation.tree = tree := by
  intro body tree
  have inside : ∀ token ∈ body, token.kind ≠ .endOfInput := by decide
  exact ⟨inside, rfl, ((ofTokens_iff_derived body (Token.atEnd 14) inside rfl).2.1 tree).1 rfl⟩

end SearchBox.Grammar
