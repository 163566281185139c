import SearchBox.Proofs.Canonical.Clauses
import SearchBox.Proofs.Formula
import SearchBox.Proofs.Grammar.Induction

/-! Canonical text, read back. The text of an expression is cut into the tokens of one operand of
the grammar, whose tree is the expression in canonical form. -/

namespace SearchBox

def Connective.keyword : Connective → Keyword
  | .and => .and
  | .or => .or

theorem Connective.word_eq (connective : Connective) :
    connective.word = connective.keyword.text := by
  cases connective <;> rfl

namespace Lexer

variable {context : LexicalContext} {rest : List Char}

/-- A reserved word with a blank behind it, where no value is expected. -/
theorem tokens_keyword (keyword : Keyword) (rest : List Char)
    (unexpected : context.expectsValue = false) (position : Nat) :
    ∃ mark : Grammar.Mark (.keyword keyword), ∃ position',
      tokens ⟨keyword.text.toList ++ ' ' :: rest, position, context, false⟩ =
        mark.val :: tokens ⟨rest, position', context.after (.keyword keyword), false⟩ := by
  have word : (keyword.text.toList ≠ [] ∧ containsSpan keyword.text.toList = false) ∧
      keyword.text.toList.all isWordChar = true := by
    cases keyword <;> decide
  have noDot : keyword.text.toList.getLast? ≠ some '.' := by
    cases keyword <;> decide
  have reserved : Keyword.ofWord? keyword.text.toList = some keyword := by
    cases keyword <;> decide
  obtain ⟨span, position₁, read⟩ := tokens_word word.1.1 (List.all_eq_true.1 word.2) word.1.2
    ((Seam.blank rest).endsWord noDot) (Lexeme.withStar_of_ne (by simp) _ _) context position
  have kind : context.kindOf ⟨.plainWord, keyword.text.toList, ' ' :: rest⟩ = .keyword keyword := by
    simp [LexicalContext.kindOf, LexicalContext.wordKind, unexpected, reserved]
  rw [kind, tokens_blank (by decide)] at read
  exact ⟨⟨⟨.keyword keyword, String.ofList keyword.text.toList, span⟩, rfl⟩, _, read⟩

theorem tokens_opening (text : List Char) (place : context.AtOperand) (position : Nat) :
    ∃ opening : Grammar.Mark .leftParen, ∃ position' context', context'.AtOperand ∧
      tokens ⟨'(' :: text, position, context, false⟩ =
        opening.val :: tokens ⟨text, position', context', false⟩ := by
  obtain ⟨opening, position', opened⟩ :=
    tokens_mark (by decide) (Lexeme.first_leftParen text) context position
  exact ⟨opening, position', context.after .leftParen, place.after rfl, opened⟩

theorem tokens_closing (rest : List Char) (context : LexicalContext) (position : Nat) :
    ∃ closing : Grammar.Mark .rightParen, ∃ position' context', context'.AtOperand ∧
      tokens ⟨')' :: rest, position, context, false⟩ =
        closing.val :: tokens ⟨rest, position', context', false⟩ := by
  obtain ⟨closing, position', closed⟩ :=
    tokens_mark (by decide) (Lexeme.first_rightParen rest) context position
  exact ⟨closing, position', context.after .rightParen, context.atOperand_after_rightParen, closed⟩

/-- The word between two operands. -/
theorem tokens_connective (connective : Connective) (text : List Char) (place : context.AtOperand)
    (position : Nat) :
    ∃ mark : Grammar.Mark (.keyword connective.keyword), ∃ position' context', context'.AtOperand ∧
      tokens ⟨' ' :: (connective.word.toList ++ ' ' :: text), position, context, false⟩ =
        mark.val :: tokens ⟨text, position', context', false⟩ := by
  obtain ⟨mark, position', read⟩ :=
    tokens_keyword connective.keyword text place.1 (position + ' '.utf8Size)
  have neutral : LexicalContext.announces (.keyword connective.keyword) = false := by
    cases connective <;> rfl
  rw [tokens_blank (by decide), connective.word_eq]
  exact ⟨mark, position', context.after (.keyword connective.keyword), place.after neutral, read⟩

/-- A `NOT` and the parenthesis behind it. -/
theorem tokens_negation (text : List Char) (place : context.AtOperand) (position : Nat) :
    ∃ mark : Grammar.Mark (.keyword .not), ∃ opening : Grammar.Mark .leftParen, ∃ position' context',
      context'.AtOperand ∧ tokens ⟨"NOT".toList ++ ' ' :: '(' :: text, position, context, false⟩ =
        mark.val :: opening.val :: tokens ⟨text, position', context', false⟩ := by
  obtain ⟨mark, position₁, marked⟩ := tokens_keyword .not ('(' :: text) place.1 position
  have negated : (context.after (.keyword .not)).AtOperand := place.after rfl
  obtain ⟨opening, position', context', inside, opened⟩ := tokens_opening text negated position₁
  exact ⟨mark, opening, position', context', inside, by rw [← opened]; exact marked⟩

end Lexer

namespace Grammar

def Unary.alone (unary : Unary) : Disjunction :=
  .mk (.mk unary .none) .none

@[simp] theorem Unary.tokens_alone (unary : Unary) : unary.alone.tokens = unary.tokens := by
  simp [alone, Disjunction.tokens, Disjuncts.tokens, Conjunction.tokens, Conjuncts.tokens]

@[simp] theorem Unary.tree_alone (unary : Unary) : unary.alone.tree = unary.tree := by
  simp [alone, Disjunction.tree, Disjuncts.joinedTo, Conjunction.tree, Conjuncts.joinedTo]

@[simp] theorem Unary.nesting_alone (unary : Unary) : unary.alone.nesting = unary.nesting := by
  simp [alone, Disjunction.nesting, Disjuncts.nesting, Conjunction.nesting, Conjuncts.nesting]

/-- Two operands with a word between them. -/
def joinedBy : (connective : Connective) → Mark (.keyword connective.keyword) →
    (left right : Unary) → Disjunction
  | .and, mark, left, right => .mk (.mk left (.more (some mark) right .none)) .none
  | .or, mark, left, right => .mk (.mk left .none) (.more mark (.mk right .none) .none)

variable (connective : Connective) (mark : Mark (.keyword connective.keyword)) (left right : Unary)

theorem tokens_joinedBy : (joinedBy connective mark left right).tokens =
    left.tokens ++ mark.val :: right.tokens := by
  cases connective with
  | and =>
    rw [joinedBy, Disjunction.tokens, Disjuncts.tokens, Conjunction.tokens, Conjuncts.tokens,
      Conjuncts.tokens, List.append_nil, List.append_nil]
    rfl
  | or =>
    simp [joinedBy, Disjunction.tokens, Disjuncts.tokens, Conjunction.tokens, Conjuncts.tokens]

theorem tree_joinedBy : (joinedBy connective mark left right).tree =
    .joined connective left.tree right.tree := by
  cases connective <;>
    simp [joinedBy, Disjunction.tree, Disjuncts.joinedTo, Conjunction.tree, Conjuncts.joinedTo]

theorem nesting_joinedBy : (joinedBy connective mark left right).nesting =
    max left.nesting right.nesting := by
  cases connective <;>
    simp [joinedBy, Disjunction.nesting, Disjuncts.nesting, Conjunction.nesting,
      Conjuncts.nesting]

end Grammar

namespace Tree

/-- The formula with the names of its fields and the texts of its values alone. -/
def plain (tree : Tree) : Formula (Clause String String) :=
  tree.formula.map (Clause.map FieldName.name Literal.text)

theorem plain_withSpan (span : Span) (tree : Tree) : (tree.withSpan span).plain = tree.plain := by
  rw [plain, formula_withSpan, plain]

theorem plain_joined (connective : Connective) (left right : Tree) :
    (joined connective left right).plain = .join connective left.plain right.plain :=
  rfl

theorem plain_negated (start : Nat) (inner : Tree) :
    (inner.negated start).plain = .negation inner.plain :=
  rfl

end Tree

def Expression.plain (expression : Expression) : Formula (Clause String String) :=
  expression.map (Clause.map Field.name id)

namespace Lexer

variable {context : LexicalContext} {rest : List Char}

/-- The text of an expression is read as one operand. Every level of the expression puts at most a
`NOT` and a parenthesis around what is in it. -/
theorem tokens_expression (expression : Expression)
    (writable : ∀ clause ∈ expression.atoms, clause.Writable)
    (apart : ∀ clause ∈ expression.atoms, ¬clause.Glued) (seam : Seam rest)
    (place : context.AtOperand) (position : Nat) :
    ∃ unary : Grammar.Unary, ∃ position' context', context'.AtOperand ∧
      unary.nesting + 2 ≤ 2 * expression.depth ∧
      unary.tree.plain = Expression.plain (expression.map Clause.canonical) ∧
      tokens ⟨expression.write Clause.write ++ rest, position, context, false⟩ =
        unary.tokens ++ tokens ⟨rest, position', context', false⟩ := by
  induction expression generalizing context rest position with
  | atom clause =>
    obtain ⟨leaf, position', context', after, stands, read⟩ := tokens_clause
      (writable clause (List.mem_singleton.2 rfl)) (apart clause (List.mem_singleton.2 rfl)) seam
      place position
    refine ⟨.leaf leaf, position', context', after, by simp [Grammar.Unary.nesting, Formula.depth],
      ?_, ?_⟩
    · rw [Grammar.Unary.tree, Tree.plain, stands]
      rfl
    · rw [Formula.write_atom, read, Grammar.Unary.tokens]
  | join connective left right leftIh rightIh =>
    simp only [Formula.atoms, List.mem_append, or_imp, forall_and] at writable apart
    let afterLeft := connective.word.toList ++ ' ' :: (right.write Clause.write ++ ')' :: rest)
    obtain ⟨opening, position₁, context₁, place₁, opened⟩ :=
      tokens_opening (left.write Clause.write ++ ' ' :: afterLeft) place position
    obtain ⟨leftUnary, position₂, context₂, place₂, leftNesting, leftStands, leftRead⟩ :=
      leftIh writable.1 apart.1 (Seam.blank afterLeft) place₁ position₁
    obtain ⟨mark, position₃, context₃, place₃, marked⟩ :=
      tokens_connective connective (right.write Clause.write ++ ')' :: rest) place₂ position₂
    obtain ⟨rightUnary, position₄, context₄, place₄, rightNesting, rightStands, rightRead⟩ :=
      rightIh writable.2 apart.2 (Seam.rightParen rest) place₃ position₃
    obtain ⟨closing, position', context', place', closed⟩ := tokens_closing rest context₄ position₄
    refine ⟨.group opening (Grammar.joinedBy connective mark leftUnary rightUnary) closing, position',
      context', place', ?_, ?_, ?_⟩
    · rw [Grammar.Unary.nesting, Grammar.nesting_joinedBy, Formula.depth]
      omega
    · rw [Grammar.Unary.tree, Grammar.tree_joinedBy, Tree.plain_withSpan, Tree.plain_joined,
        leftStands, rightStands]
      rfl
    · rw [Formula.write_join, opened, leftRead, marked, rightRead, closed, Grammar.Unary.tokens,
        Grammar.tokens_joinedBy]
      simp
  | negation inner ih =>
    obtain ⟨mark, opening, position₁, context₁, place₁, opened⟩ :=
      tokens_negation (inner.write Clause.write ++ ')' :: rest) place position
    obtain ⟨unary, position₂, context₂, place₂, nesting, stands, read⟩ :=
      ih writable apart (Seam.rightParen rest) place₁ position₁
    obtain ⟨closing, position', context', place', closed⟩ := tokens_closing rest context₂ position₂
    refine ⟨.negation mark (.group opening unary.alone closing), position', context', place', ?_, ?_,
      ?_⟩
    · rw [Grammar.Unary.nesting, Grammar.Unary.nesting, Grammar.Unary.nesting_alone, Formula.depth]
      omega
    · rw [Grammar.Unary.tree, Grammar.Unary.tree, Grammar.Unary.tree_alone, Tree.plain_negated,
        Tree.plain_withSpan, stands]
      rfl
    · rw [Formula.write_negation, opened, read, closed, Grammar.Unary.tokens, Grammar.Unary.tokens,
        Grammar.Unary.tokens_alone]
      simp

end Lexer

end SearchBox
