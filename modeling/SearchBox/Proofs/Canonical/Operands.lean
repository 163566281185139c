import SearchBox.Proofs.Canonical.Reading

/-! How deep canonical text is nested. A join is written as one group and a negation as a `NOT` before
a group, and the text is cut into an operand with as many of them, unless it breaks off: a lone equals
sign joins the strict symbol before it and leaves the symbol that is read without a value. -/

namespace SearchBox

namespace Clause

/-- The value is an equals sign alone behind a strict symbol, which takes it. -/
def lacksValue {φ : Type} : Clause φ String → Bool
  | range _ (.bound .above) value _ | range _ (.bound .below) value _ => value == "="
  | _ => false

theorem glued_of_lacksValue {φ : Type} {clause : Clause φ String}
    (lacks : clause.lacksValue = true) : clause.Glued := by
  have equals : (writeValue "=").head? = some '=' := by decide
  unfold lacksValue at lacks
  split at lacks
  · rw [beq_iff_eq.1 lacks]
    exact ⟨.inl rfl, equals⟩
  · rw [beq_iff_eq.1 lacks]
    exact ⟨.inr rfl, equals⟩
  · cases lacks

end Clause

namespace Expression

/-- Whether the reading of the text stops inside of it, for want of a value. A connective behind the
text would be taken for the value of its last clause. -/
def breaksOff : Expression → (followed : Bool) → Bool
  | .atom clause, followed => !followed && clause.lacksValue
  | .join _ left right, _ => breaksOff left true || breaksOff right false
  | .negation inner, _ => breaksOff inner false

/-- The greatest number of groups and `NOT`s around one place of the text, up to where it breaks
off. -/
def levels : Expression → Nat
  | .atom _ => 0
  | .join _ left right =>
    1 + if breaksOff left true then levels left else max (levels left) (levels right)
  | .negation inner => 2 + levels inner

theorem breaksOff_false {expression : Expression} (goesOn : breaksOff expression true = false) :
    (∃ clause, expression = .atom clause ∧ clause.lacksValue = true) ∨
      breaksOff expression false = false := by
  cases expression with
  | atom clause =>
    cases lacks : clause.lacksValue with
    | true => exact .inl ⟨clause, rfl, lacks⟩
    | false => exact .inr (by simpa [breaksOff] using lacks)
  | join connective left right => exact .inr goesOn
  | negation inner => exact .inr goesOn

end Expression

/-- What a seam ends as one word. -/
structure IsWord (word : List Char) : Prop where
  chars : ∀ c ∈ word, isWordChar c = true
  noSpan : containsSpan word = false
  noDot : word.getLast? ≠ some '.'

theorem Connective.isWord (connective : Connective) : IsWord connective.word.toList := by
  have all : connective.word.toList.all isWordChar = true := by
    cases connective <;> decide
  constructor
  · exact List.all_eq_true.1 all
  · cases connective <;> decide
  · cases connective <;> decide

/-- What an equals sign leaves of a value that it begins. -/
theorem exists_word_of_writeValue {value : String} (equals : (writeValue value).head? = some '=') :
    ∃ word, writeValue value = '=' :: word ∧ (value == "=") = word.isEmpty ∧ IsWord word := by
  unfold writeValue at equals ⊢
  split at equals
  · cases equals
  · next bare =>
    rw [if_neg bare]
    obtain ⟨isBare, _, noDot, _⟩ := needsQuotes_eq_false_iff.1 (by simpa using bare)
    obtain ⟨_, noSpan, chars⟩ := isBareWord_iff.1 isBare
    obtain ⟨word, same⟩ : ∃ word, value.toList = '=' :: word :=
      List.head?_eq_some_iff.1 equals
    refine ⟨word, same, ?_, ?_, ?_, ?_⟩
    · rw [Bool.eq_iff_iff, beq_iff_eq, ← String.toList_inj, same, List.isEmpty_iff]
      exact ⟨fun equal => (List.cons.inj equal).2, fun none => by rw [none]; rfl⟩
    · intro c member
      exact (chars c (same ▸ List.mem_cons_of_mem _ member)).1
    · rw [same, containsSpan, Bool.or_eq_false_iff] at noSpan
      exact noSpan.2
    · intro dot
      apply noDot
      rw [same, List.getLast?_cons, dot]
      rfl

namespace Lexer

variable {context : LexicalContext} {rest : List Char}

/-- A word where a value is expected, but no list. -/
theorem tokens_literal {word : List Char} (isWord : IsWord word) (nonempty : word ≠ [])
    (seam : Seam rest) (expects : context.expectsValue = true)
    (noColon : context.previous ≠ some .colon) (position : Nat) :
    ∃ token : Grammar.ValueToken, ∃ position',
      tokens ⟨word ++ rest, position, context, false⟩ =
        token.val :: tokens ⟨rest, position', context.after token.val.kind, false⟩ := by
  obtain ⟨span, position', read⟩ := tokens_word nonempty isWord.chars isWord.noSpan
    (seam.endsWord isWord.noDot) (Lexeme.withStar_of_ne (seam.head?_ne (.inl rfl)) _ _) context
    position
  have kind : context.kindOf ⟨.plainWord, word, rest⟩ = LexicalContext.literalKind word := by
    simp [LexicalContext.kindOf, LexicalContext.wordKind, LexicalContext.opensList, expects, noColon,
      seam.head?_ne (.inr rfl)]
  have literal : (context.kindOf ⟨.plainWord, word, rest⟩).isLiteral = true := by
    rw [kind]
    exact LexicalContext.isLiteral_literalKind word
  exact ⟨⟨_, literal⟩, position', read⟩

/-- A strict comparison whose value begins with an equals sign, up to that sign. -/
theorem tokens_glued {clause : Clause Field String} (writable : clause.Writable)
    (glued : clause.Glued) : ∃ word, clause.lacksValue = word.isEmpty ∧ IsWord word ∧
      ∀ rest context position, ∃ field : Grammar.Mark .fieldName, ∃ colon : Grammar.Mark .colon,
        ∃ comparison, ∃ mark : Grammar.Mark (.range (.bound comparison)), ∃ position',
          tokens ⟨clause.write ++ rest, position, context, false⟩ =
            field.val :: colon.val :: mark.val :: tokens ⟨word ++ rest, position',
              ((context.after .fieldName).after .colon).after (.range (.bound comparison)),
              false⟩ := by
  cases clause with
  | range field operator value upper =>
    cases operator with
    | between => exact glued.elim
    | bound comparison =>
      obtain ⟨strict, equals⟩ := glued
      obtain ⟨word, starts, lone, isWord⟩ := exists_word_of_writeValue equals
      have whole (rest : List Char) : (Clause.range field (.bound comparison) value upper).write ++
          rest = field.name.toList ++ ':' :: (comparison.symbol.toList ++ '=' :: (word ++ rest)) := by
        simp [Clause.write, writeRange, starts]
      refine ⟨word, ?_, isWord, ?_⟩
      · rw [← lone]
        rcases strict with rfl | rfl <;> rfl
      · intro rest context position
        rw [whole]
        obtain ⟨name, colon, position₁, -, named⟩ := tokens_field field.name
          (comparison.symbol.toList ++ '=' :: (word ++ rest)) writable context position
        rcases strict with rfl | rfl
        · obtain ⟨mark, position₂, marked⟩ := tokens_mark (by decide)
            (Lexeme.first_atLeast (word ++ rest)) ((context.after .fieldName).after .colon) position₁
          exact ⟨name, colon, .atLeast, mark, position₂, by rw [named, ← marked]; rfl⟩
        · obtain ⟨mark, position₂, marked⟩ := tokens_mark (by decide)
            (Lexeme.first_atMost (word ++ rest)) ((context.after .fieldName).after .colon) position₁
          exact ⟨name, colon, .atMost, mark, position₂, by rw [named, ← marked]; rfl⟩
  | _ => exact glued.elim

/-- In front of `rest` the text is cut into the tokens of a leaf. -/
def ReadsLeaf (text rest : List Char) : Prop :=
  ∀ context position, context.AtOperand →
    ∃ leaf : Grammar.Leaf, ∃ position' context', context'.AtOperand ∧
      tokens ⟨text ++ rest, position, context, false⟩ =
        leaf.tokens ++ tokens ⟨rest, position', context', false⟩

/-- The word that such a comparison takes for its value. -/
theorem readsLeaf_bound {field : Grammar.Mark .fieldName} {colon : Grammar.Mark .colon}
    {comparison : Comparison} {mark : Grammar.Mark (.range (.bound comparison))} {word : List Char}
    (isWord : IsWord word) (nonempty : word ≠ []) (seam : Seam rest) (place : context.AtOperand)
    (position : Nat) : ∃ leaf : Grammar.Leaf, ∃ position' context', context'.AtOperand ∧
      field.val :: colon.val :: mark.val :: tokens ⟨word ++ rest, position,
          ((context.after .fieldName).after .colon).after (.range (.bound comparison)), false⟩ =
        leaf.tokens ++ tokens ⟨rest, position', context', false⟩ := by
  let marked := ((context.after .fieldName).after .colon).after (.range (.bound comparison))
  obtain ⟨value, position', read⟩ := tokens_literal isWord nonempty seam
    (LexicalContext.expectsValue_after_range _ (.bound comparison)) (by simp [LexicalContext.after])
    position
  refine ⟨.onField field colon (.bound comparison mark value), position',
    marked.after value.val.kind, ?_, ?_⟩
  · exact atOperand_after_literal value.property place.inList_eq (by simp [marked, LexicalContext.after])
  · rw [read]
    rfl

theorem readsLeaf_clause {clause : Clause Field String} (writable : clause.Writable)
    (filled : clause.lacksValue = false) (seam : Seam rest) : ReadsLeaf clause.write rest := by
  intro context position place
  by_cases glued : clause.Glued
  · obtain ⟨word, lacks, isWord, front⟩ := tokens_glued writable glued
    obtain ⟨field, colon, comparison, mark, position₁, read⟩ := front rest context position
    have nonempty : word ≠ [] := by
      rintro rfl
      rw [filled] at lacks
      cases lacks
    rw [read]
    exact readsLeaf_bound isWord nonempty seam place position₁
  · obtain ⟨leaf, position', context', after, -, read⟩ :=
      tokens_clause writable glued seam place position
    exact ⟨leaf, position', context', after, read⟩

/-- Behind a symbol without a value, the next word is the value. -/
theorem readsLeaf_lacking {clause : Clause Field String} (writable : clause.Writable)
    (lacks : clause.lacksValue = true) {word : List Char} (isWord : IsWord word)
    (nonempty : word ≠ []) (seam : Seam rest) :
    ReadsLeaf (clause.write ++ ' ' :: word) rest := by
  intro context position place
  obtain ⟨none, empty, -, front⟩ := tokens_glued writable (Clause.glued_of_lacksValue lacks)
  obtain rfl : none = [] := List.isEmpty_iff.1 (empty.symm.trans lacks)
  obtain ⟨field, colon, comparison, mark, position₁, read⟩ :=
    front (' ' :: (word ++ rest)) context position
  rw [List.nil_append, tokens_blank (by decide)] at read
  rw [List.append_assoc, List.cons_append, read]
  exact readsLeaf_bound isWord nonempty seam place _

/-- In front of `rest` the text is cut into the tokens of an operand with so many levels of groups
and negations, and of such a depth. -/
def ReadsOperand (text rest : List Char) (levels depth : Nat) : Prop :=
  ∀ context position, context.AtOperand →
    ∃ unary : Grammar.Unary, ∃ position' context', context'.AtOperand ∧
      unary.nesting = levels ∧ unary.tree.formula.depth = depth ∧
      tokens ⟨text ++ rest, position, context, false⟩ =
        unary.tokens ++ tokens ⟨rest, position', context', false⟩

theorem ReadsLeaf.operand {text : List Char} (reads : ReadsLeaf text rest) :
    ReadsOperand text rest 0 1 := by
  intro context position place
  obtain ⟨leaf, position', context', after, read⟩ := reads context position place
  refine ⟨.leaf leaf, position', context', after, rfl, ?_, read⟩
  cases leaf <;> rfl

/-- The same for the left operand of a join. Its word is missing among the tokens if the operand takes
it for a value. -/
def ReadsLeft (connective : Connective) (text after : List Char) (levels depth : Nat) : Prop :=
  ∀ context position, context.AtOperand →
    ∃ unary : Grammar.Unary, ∃ mark? : Option (Grammar.Mark (.keyword connective.keyword)),
      ∃ position' context', context'.AtOperand ∧
        unary.nesting = levels ∧ unary.tree.formula.depth = depth ∧
        tokens ⟨text ++ ' ' :: (connective.word.toList ++ ' ' :: after), position, context, false⟩ =
          unary.tokens ++ ((mark?.map Subtype.val).toList ++
            tokens ⟨after, position', context', false⟩)

theorem ReadsOperand.left {connective : Connective} {text after : List Char} {levels depth : Nat}
    (reads : ReadsOperand text (' ' :: (connective.word.toList ++ ' ' :: after)) levels depth) :
    ReadsLeft connective text after levels depth := by
  intro context position place
  obtain ⟨unary, position₁, context₁, place₁, nesting, depth, read⟩ := reads context position place
  obtain ⟨mark, position', context', place', marked⟩ :=
    tokens_connective connective after place₁ position₁
  exact ⟨unary, some mark, position', context', place', nesting, depth, by rw [read, marked]; rfl⟩

theorem readsLeft_lacking (connective : Connective) {clause : Clause Field String}
    (writable : clause.Writable) (lacks : clause.lacksValue = true) (after : List Char) :
    ReadsLeft connective clause.write after 0 1 := by
  intro context position place
  have nonempty : connective.word.toList ≠ [] := by
    cases connective <;> decide
  obtain ⟨unary, position₁, context₁, place₁, nesting, depth, read⟩ :=
    (readsLeaf_lacking writable lacks connective.isWord nonempty (Seam.blank after)).operand
      context position place
  rw [tokens_blank (by decide)] at read
  refine ⟨unary, none, position₁ + ' '.utf8Size, context₁, place₁, nesting, depth, ?_⟩
  rw [Option.map_none, Option.toList_none, List.nil_append, ← read]
  simp

end Lexer

/-- Two operands with a word between them, or with nothing. -/
def Grammar.connected (connective : Connective) :
    Option (Mark (.keyword connective.keyword)) → (left right : Unary) → Disjunction
  | some mark, left, right => joinedBy connective mark left right
  | none, left, right => .mk (.mk left (.more none right .none)) .none

namespace Grammar

variable (connective : Connective) (mark? : Option (Mark (.keyword connective.keyword)))
  (left right : Unary)

theorem tokens_connected : (connected connective mark? left right).tokens =
    left.tokens ++ ((mark?.map Subtype.val).toList ++ right.tokens) := by
  cases mark? with
  | some mark => exact tokens_joinedBy connective mark left right
  | none =>
    simp [connected, Disjunction.tokens, Disjuncts.tokens, Conjunction.tokens, Conjuncts.tokens]

theorem nesting_connected : (connected connective mark? left right).nesting =
    max left.nesting right.nesting := by
  cases mark? with
  | some mark => exact nesting_joinedBy connective mark left right
  | none =>
    simp [connected, Disjunction.nesting, Disjuncts.nesting, Conjunction.nesting, Conjuncts.nesting]

theorem depth_connected : (connected connective mark? left right).tree.formula.depth =
    1 + max left.tree.formula.depth right.tree.formula.depth := by
  cases mark? with
  | some mark => rw [connected, tree_joinedBy]; rfl
  | none => rfl

end Grammar

namespace Lexer

variable {rest : List Char}

theorem readsLeft_expression {connective : Connective} {expression : Expression}
    {after : List Char} (writable : ∀ clause ∈ expression.atoms, clause.Writable)
    (goesOn : expression.breaksOff true = false)
    (reads : expression.breaksOff false = false → ReadsOperand (expression.write Clause.write)
      (' ' :: (connective.word.toList ++ ' ' :: after)) expression.levels expression.depth) :
    ReadsLeft connective (expression.write Clause.write) after expression.levels
      expression.depth := by
  rcases Expression.breaksOff_false goesOn with ⟨clause, rfl, lacks⟩ | whole
  · rw [Formula.write_atom]
    exact readsLeft_lacking connective (writable clause (List.mem_singleton.2 rfl)) lacks after
  · exact (reads whole).left

/-- Text that does not break off is read as one operand with the levels of the expression. -/
theorem readsOperand_expression {expression : Expression}
    (writable : ∀ clause ∈ expression.atoms, clause.Writable)
    (whole : expression.breaksOff false = false) (seam : Seam rest) :
    ReadsOperand (expression.write Clause.write) rest expression.levels expression.depth := by
  induction expression generalizing rest with
  | atom clause =>
    rw [Formula.write_atom]
    exact (readsLeaf_clause (writable clause (List.mem_singleton.2 rfl)) whole seam).operand
  | join connective left right leftIh rightIh =>
    simp only [Formula.atoms, List.mem_append, or_imp, forall_and] at writable
    obtain ⟨leftGoesOn, rightWhole⟩ := Bool.or_eq_false_iff.1 whole
    let afterLeft := right.write Clause.write ++ ')' :: rest
    have readsLeft : ReadsLeft connective (left.write Clause.write) afterLeft
        (Expression.levels left) left.depth :=
      readsLeft_expression writable.1 leftGoesOn fun leftWhole =>
        leftIh writable.1 leftWhole (Seam.blank _)
    have readsRight := rightIh writable.2 rightWhole (Seam.rightParen rest)
    intro context position place
    obtain ⟨opening, position₁, context₁, place₁, opened⟩ := tokens_opening
      (left.write Clause.write ++ ' ' :: (connective.word.toList ++ ' ' :: afterLeft)) place position
    obtain ⟨leftUnary, mark?, position₂, context₂, place₂, leftNesting, leftDepth, leftRead⟩ :=
      readsLeft context₁ position₁ place₁
    obtain ⟨rightUnary, position₃, context₃, place₃, rightNesting, rightDepth, rightRead⟩ :=
      readsRight context₂ position₂ place₂
    obtain ⟨closing, position', context', place', closed⟩ := tokens_closing rest context₃ position₃
    refine ⟨.group opening (Grammar.connected connective mark? leftUnary rightUnary) closing,
      position', context', place', ?_, ?_, ?_⟩
    · rw [Grammar.Unary.nesting, Grammar.nesting_connected, leftNesting, rightNesting,
        Expression.levels, if_neg (by simp [leftGoesOn])]
    · rw [Grammar.Unary.tree, Tree.formula_withSpan, Grammar.depth_connected, leftDepth, rightDepth]
      rfl
    · rw [Formula.write_join, opened, leftRead, rightRead, closed, Grammar.Unary.tokens,
        Grammar.tokens_connected]
      simp
  | negation inner ih =>
    have readsInner := ih writable whole (Seam.rightParen rest)
    intro context position place
    obtain ⟨mark, opening, position₁, context₁, place₁, opened⟩ :=
      tokens_negation (inner.write Clause.write ++ ')' :: rest) place position
    obtain ⟨unary, position₂, context₂, place₂, nesting, depth, read⟩ :=
      readsInner context₁ position₁ place₁
    obtain ⟨closing, position', context', place', closed⟩ := tokens_closing rest context₂ position₂
    refine ⟨.negation mark (.group opening unary.alone closing), position', context', place', ?_, ?_,
      ?_⟩
    · rw [Grammar.Unary.nesting, Grammar.Unary.nesting, Grammar.Unary.nesting_alone, nesting,
        Expression.levels]
      omega
    · rw [Grammar.Unary.tree, Grammar.Unary.tree, Grammar.Unary.tree_alone, Tree.formula_negated,
        Tree.formula_withSpan, Formula.depth, depth]
      rfl
    · rw [Formula.write_negation, opened, read, closed, Grammar.Unary.tokens, Grammar.Unary.tokens,
        Grammar.Unary.tokens_alone]
      simp

end Lexer

end SearchBox
