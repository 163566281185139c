import SearchBox.Proofs.Lexing.Pieces
import SearchBox.Tree.Structure

/-! Clauses in canonical text, read back. The text of a clause is cut into the tokens of one leaf of
the grammar, and the leaf stands for the clause in its canonical form. -/

namespace SearchBox

namespace LexicalContext

/-- The next word begins an operand: it is neither a value nor the parenthesis of a list. -/
def AtOperand (context : LexicalContext) : Prop :=
  context.expectsValue = false ∧ context.previous ≠ some (.keyword .isIn)

theorem AtOperand.start : AtOperand start :=
  ⟨rfl, nofun⟩

theorem AtOperand.inList_eq {context : LexicalContext} (place : context.AtOperand) :
    context.inList = false :=
  (Bool.or_eq_false_iff.1 place.1).1

/-- The kinds of tokens with a meaning for the word that comes next. -/
def announces : Token.Kind → Bool
  | .colon | .range _ | .keyword .isIn => true
  | _ => false

theorem atOperand_after {context : LexicalContext} {kind : Token.Kind}
    (outside : context.inList = false) (noList : context.previous ≠ some (.keyword .isIn))
    (neutral : announces kind = false) : (context.after kind).AtOperand := by
  unfold AtOperand expectsValue after
  cases kind with
  | keyword keyword => cases keyword <;> simp_all [announces]
  | _ => simp_all [announces]

theorem AtOperand.after {context : LexicalContext} (place : context.AtOperand) {kind : Token.Kind}
    (neutral : announces kind = false) : (context.after kind).AtOperand :=
  atOperand_after place.inList_eq place.2 neutral

theorem atOperand_after_rightParen (context : LexicalContext) :
    (context.after .rightParen).AtOperand := by
  simp [AtOperand, expectsValue, LexicalContext.after]

theorem expectsValue_of_inList {context : LexicalContext} (inside : context.inList = true) :
    context.expectsValue = true := by
  simp [expectsValue, inside]

theorem expectsValue_of_colon {context : LexicalContext} (colon : context.previous = some .colon) :
    context.expectsValue = true := by
  simp [expectsValue, colon]

theorem expectsValue_after_range (context : LexicalContext) (mark : RangeMark) :
    (context.after (.range mark)).expectsValue = true := by
  simp [expectsValue, after]

theorem announces_of_isLiteral {kind : Token.Kind} (literal : kind.isLiteral = true) :
    announces kind = false := by
  cases kind <;> simp_all [announces, Token.Kind.isLiteral]

theorem inList_after_of_isLiteral (context : LexicalContext) {kind : Token.Kind}
    (literal : kind.isLiteral = true) : (context.after kind).inList = context.inList := by
  cases kind <;> simp_all [after, Token.Kind.isLiteral]

end LexicalContext

theorem isWordChar_of_nameChar {c : Char} (name : (c.isAlphanum || c == '_' || c == '-') = true) :
    isWordChar c = true ∧ c ≠ '.' := by
  have code : (48 ≤ c.toNat ∧ c.toNat ≤ 57) ∨ (65 ≤ c.toNat ∧ c.toNat ≤ 90) ∨
      (97 ≤ c.toNat ∧ c.toNat ≤ 122) ∨ c.toNat = 95 ∨ c.toNat = 45 := by
    delta Char.isAlphanum Char.isAlpha Char.isUpper Char.isLower Char.isDigit at name
    simp only [Bool.or_eq_true, Bool.and_eq_true, decide_eq_true_eq, beq_iff_eq, ge_iff_le,
      UInt32.le_iff_toNat_le] at name
    rcases name with (((⟨low, high⟩ | ⟨low, high⟩) | ⟨low, high⟩) | rfl) | rfl
    · exact .inr (.inl ⟨low, high⟩)
    · exact .inr (.inr (.inl ⟨low, high⟩))
    · exact .inl ⟨low, high⟩
    · exact .inr (.inr (.inr (.inl rfl)))
    · exact .inr (.inr (.inr (.inr rfl)))
  have visible : isBlank c = false := by
    simp only [isBlank, CodeRanges.contains, blankRanges, List.any_cons, List.any_nil,
      Bool.or_false, Bool.or_eq_false_iff, Bool.and_eq_false_iff, decide_eq_false_iff_not]
    omega
  have differs (d : Char) (other : c.toNat ≠ d.toNat) : c ≠ d := fun same => other (same ▸ rfl)
  have inner : wordEnds.contains c = false := by
    simp only [wordEnds, List.contains_eq_mem, List.mem_cons, List.not_mem_nil, or_false,
      decide_eq_false_iff_not, not_or]
    refine ⟨?_, ?_, ?_, ?_, ?_, ?_, ?_, ?_⟩
    all_goals
      apply differs
      simp only [Char.reduceToNat]
      omega
  refine ⟨by rw [isWordChar, visible, inner]; rfl, differs '.' ?_⟩
  simp only [Char.reduceToNat]
  omega

theorem containsSpan_of_noDot {text : List Char} (noDot : '.' ∉ text) :
    containsSpan text = false := by
  induction text with
  | nil => rfl
  | cons c text ih =>
    rw [List.mem_cons, not_or] at noDot
    have here : startsWithSpan (c :: text) = false := by
      unfold startsWithSpan
      split
      · next same => exact (noDot.1 (List.cons.inj same).1.symm).elim
      · rfl
    rw [containsSpan, here, ih noDot.2]
    rfl

theorem nameChars_of_isFieldName {name : List Char} (valid : isFieldName name = true) :
    name ≠ [] ∧ ∀ c ∈ name, isWordChar c = true ∧ c ≠ '.' := by
  cases name with
  | nil => cases valid
  | cons c name =>
    simp only [isFieldName, Bool.and_eq_true, List.all_eq_true] at valid
    refine ⟨by simp, ?_⟩
    intro d member
    apply isWordChar_of_nameChar
    rcases List.mem_cons.1 member with rfl | later
    · simp [Char.isAlphanum, valid.1]
    · exact valid.2 d later

namespace Lexeme

theorem first_leftParen (text : List Char) : first '(' text = ⟨.fixed .leftParen, ['('], text⟩ :=
  rfl

theorem first_rightParen (text : List Char) : first ')' text = ⟨.fixed .rightParen, [')'], text⟩ :=
  rfl

theorem first_comma (text : List Char) : first ',' text = ⟨.fixed .comma, [','], text⟩ :=
  rfl

theorem first_colon (text : List Char) : first ':' text = ⟨.fixed .colon, [':'], text⟩ :=
  rfl

theorem first_span (text : List Char) :
    first '.' ('.' :: text) = ⟨.fixed (.range .span), ['.', '.'], text⟩ :=
  rfl

theorem first_atLeast (text : List Char) :
    first '>' ('=' :: text) = ⟨.fixed (.range (.bound .atLeast)), ['>', '='], text⟩ :=
  rfl

theorem first_atMost (text : List Char) :
    first '<' ('=' :: text) = ⟨.fixed (.range (.bound .atMost)), ['<', '='], text⟩ :=
  rfl

theorem first_above {text : List Char} (apart : text.head? ≠ some '=') :
    first '>' text = ⟨.fixed (.range (.bound .above)), ['>'], text⟩ := by
  unfold first
  split <;> simp_all

theorem first_below {text : List Char} (apart : text.head? ≠ some '=') :
    first '<' text = ⟨.fixed (.range (.bound .below)), ['<'], text⟩ := by
  unfold first
  split <;> simp_all

end Lexeme

namespace Lexer

variable {context : LexicalContext} {rest : List Char}

/-- A mark of its own kind, whatever stands before it. -/
theorem tokens_mark {c : Char} {text chars : List Char} {kind : Token.Kind}
    (visible : isBlank c = false) (found : Lexeme.first c text = ⟨.fixed kind, chars, rest⟩)
    (context : LexicalContext) (position : Nat) :
    ∃ mark : Grammar.Mark kind, ∃ position', tokens ⟨c :: text, position, context, false⟩ =
      mark.val :: tokens ⟨rest, position', context.after kind, false⟩ := by
  obtain ⟨span, position', read⟩ := tokens_of_first visible found position context
  exact ⟨⟨⟨kind, String.ofList chars, span⟩, rfl⟩, position', read⟩

/-- A field and its colon. -/
theorem tokens_field (name : String) (rest : List Char) (valid : isFieldName name.toList = true)
    (context : LexicalContext) (position : Nat) :
    ∃ field : Grammar.Mark .fieldName, ∃ colon : Grammar.Mark .colon, ∃ position',
      field.val.text = name ∧
        tokens ⟨name.toList ++ ':' :: rest, position, context, false⟩ =
          field.val :: colon.val ::
            tokens ⟨rest, position', (context.after .fieldName).after .colon, false⟩ := by
  obtain ⟨nonempty, chars⟩ := nameChars_of_isFieldName valid
  have ends : EndsWord name.toList (':' :: rest) := ⟨rfl, by simp⟩
  obtain ⟨span, position₁, named⟩ := tokens_word nonempty (fun c member => (chars c member).1)
    (containsSpan_of_noDot fun dot => (chars '.' dot).2 rfl) ends
    (Lexeme.withStar_of_ne (by simp) _ _) context position
  have kind : context.kindOf ⟨.plainWord, name.toList, ':' :: rest⟩ = .fieldName := by
    simp [LexicalContext.kindOf, LexicalContext.wordKind]
  obtain ⟨colon, position₂, parted⟩ := tokens_mark (by decide) (Lexeme.first_colon rest)
    (context.after .fieldName) position₁
  rw [kind, String.ofList_toList, parted] at named
  exact ⟨⟨⟨.fieldName, name, span⟩, rfl⟩, colon, position₂, rfl, named⟩

/-- The symbol of a comparison, unless an equals sign behind it makes it another one. -/
theorem tokens_symbol (comparison : Comparison)
    (apart : comparison = .above ∨ comparison = .below → rest.head? ≠ some '=')
    (context : LexicalContext) (position : Nat) :
    ∃ mark : Grammar.Mark (.range (.bound comparison)), ∃ position',
      tokens ⟨comparison.symbol.toList ++ rest, position, context, false⟩ =
        mark.val ::
          tokens ⟨rest, position', context.after (.range (.bound comparison)), false⟩ := by
  cases comparison with
  | atLeast => exact tokens_mark (by decide) (Lexeme.first_atLeast rest) context position
  | atMost => exact tokens_mark (by decide) (Lexeme.first_atMost rest) context position
  | above =>
    exact tokens_mark (by decide) (Lexeme.first_above (apart (.inl rfl))) context position
  | below =>
    exact tokens_mark (by decide) (Lexeme.first_below (apart (.inr rfl))) context position

/-- Written values between commas, in a list. -/
theorem tokens_items (value : String) (others : List String) (rest : List Char)
    (inside : context.inList = true) (position : Nat) :
    ∃ items : Grammar.Items, ∃ position' context', items.literals.map Literal.text = value :: others ∧
      tokens ⟨[','].intercalate ((value :: others).map writeValue) ++ ')' :: rest, position, context,
          false⟩ =
        items.tokens ++ tokens ⟨')' :: rest, position', context', false⟩ := by
  induction others generalizing value context position with
  | nil =>
    obtain ⟨token, position', stands, read⟩ := tokens_writeValue value (Seam.rightParen rest)
      (context.expectsValue_of_inList inside) position
    refine ⟨⟨token, []⟩, position', context.after token.val.kind, ?_, ?_⟩
    · simp [Grammar.Items.literals, Literal.ofToken, stands]
    · simpa [Grammar.Items.tokens, List.intercalate] using read
  | cons next others ih =>
    let later := [','].intercalate ((next :: others).map writeValue) ++ ')' :: rest
    obtain ⟨token, position₁, stands, read⟩ := tokens_writeValue value (Seam.comma later)
      (context.expectsValue_of_inList inside) position
    obtain ⟨comma, position₂, parted⟩ := tokens_mark (by decide) (Lexeme.first_comma later)
      (context.after token.val.kind) position₁
    have insideStill : ((context.after token.val.kind).after .comma).inList = true :=
      (context.inList_after_of_isLiteral token.property).trans inside
    obtain ⟨items, position', context', stand, listed⟩ := ih next insideStill position₂
    refine ⟨⟨token, (comma, items.first) :: items.others⟩, position', context', ?_, ?_⟩
    · rw [← stand]
      simp [Grammar.Items.literals, Literal.ofToken, stands]
    · have text : [','].intercalate ((value :: next :: others).map writeValue) ++ ')' :: rest =
          writeValue value ++ ',' :: later := by
        simp [later, List.intercalate]
      rw [text, read, parted, listed]
      simp [Grammar.Items.tokens]

end Lexer

namespace Clause

/-- The clause that the canonical text of a clause stands for. A beginning that cannot be written
bare is quoted, and a range keeps the second bound of `BETWEEN` only. -/
def canonical {φ : Type} : Clause φ String → Clause φ String
  | wildcard stem quoted => wildcard stem (quoted || !isBareWord stem.toList)
  | range field .between value none => range field (.bound .atLeast) value none
  | range field (.bound comparison) value _ => range field (.bound comparison) value none
  | clause => clause

/-- An equals sign at the front of the value runs into the symbol before it and makes the comparison
another one. -/
def Glued {φ : Type} : Clause φ String → Prop
  | range _ (.bound comparison) value _ =>
    (comparison = .above ∨ comparison = .below) ∧ (writeValue value).head? = some '='
  | _ => False

/-- What the text of a clause needs to be one: a well-formed name, and a value for every list. -/
def Writable : Clause Field String → Prop
  | term _ | wildcard _ _ => True
  | equals field _ | range field _ _ _ => isFieldName field.name.toList = true
  | member field values => isFieldName field.name.toList = true ∧ values ≠ []

end Clause

namespace Lexer

variable {context : LexicalContext} {rest : List Char}

/-- Behind a colon, and before `rest`, the text is cut into what the grammar has there, and that
stands for the clause on whatever field the colon belongs to. -/
def ReadsBody {φ : Type} (text rest : List Char) (clause : Clause φ String) : Prop :=
  ∀ context position, context.previous = some .colon → context.inList = false →
    ∃ body : Grammar.Body, ∃ position' context', context'.AtOperand ∧
      (∀ field : FieldName, (body.clause field).map FieldName.name Literal.text =
        clause.map (fun _ => field.name) id) ∧
      tokens ⟨text ++ rest, position, context, false⟩ =
        body.tokens ++ tokens ⟨rest, position', context', false⟩

theorem atOperand_after_literal {kind : Token.Kind} (literal : kind.isLiteral = true)
    (outside : context.inList = false) (noList : context.previous ≠ some (.keyword .isIn)) :
    (context.after kind).AtOperand :=
  LexicalContext.atOperand_after outside noList (LexicalContext.announces_of_isLiteral literal)

variable {φ : Type} (field : φ)

theorem readsBody_equals (value : String) (seam : Seam rest) :
    ReadsBody (writeValue value) rest (.equals field value) := by
  intro context position colon outside
  obtain ⟨token, position', stands, read⟩ :=
    tokens_writeValue value seam (context.expectsValue_of_colon colon) position
  refine ⟨.equals token, position', context.after token.val.kind, ?_, ?_, read⟩
  · exact atOperand_after_literal token.property outside (by simp [colon])
  · intro field
    simp [Grammar.Body.clause, Clause.map, Literal.ofToken, stands]

theorem readsBody_bound (comparison : Comparison) (value : String) (seam : Seam rest)
    (apart : comparison = .above ∨ comparison = .below → (writeValue value).head? ≠ some '=') :
    ReadsBody (comparison.symbol.toList ++ writeValue value) rest
      (.range field (.bound comparison) value none) := by
  intro context position colon outside
  have head : (writeValue value ++ rest).head? = (writeValue value).head? := by
    obtain ⟨c, text, same⟩ := List.exists_cons_of_ne_nil (writeValue_ne_nil value)
    simp [same]
  rw [← head] at apart
  obtain ⟨mark, position₁, marked⟩ := tokens_symbol comparison apart context position
  obtain ⟨token, position', stands, read⟩ := tokens_writeValue value seam
    (context.expectsValue_after_range (.bound comparison)) position₁
  refine ⟨.bound comparison mark token, position',
    (context.after (.range (.bound comparison))).after token.val.kind, ?_, ?_, ?_⟩
  · exact atOperand_after_literal token.property outside (by simp [LexicalContext.after])
  · intro field
    simp [Grammar.Body.clause, Clause.map, Literal.ofToken, stands]
  · rw [List.append_assoc, marked, read]
    rfl

theorem readsBody_between (value upper : String) (seam : Seam rest) :
    ReadsBody (writeValue value ++ "..".toList ++ writeValue upper) rest
      (.range field .between value (some upper)) := by
  intro context position colon outside
  obtain ⟨low, position₁, stands, read⟩ := tokens_writeValue value
    (Seam.dots (writeValue upper ++ rest)) (context.expectsValue_of_colon colon) position
  obtain ⟨dots, position₂, parted⟩ := tokens_mark (by decide)
    (Lexeme.first_span (writeValue upper ++ rest)) (context.after low.val.kind) position₁
  obtain ⟨high, position', standsHigh, readHigh⟩ := tokens_writeValue upper seam
    ((context.after low.val.kind).expectsValue_after_range .span) position₂
  refine ⟨.between low dots high, position',
    ((context.after low.val.kind).after (.range .span)).after high.val.kind, ?_, ?_, ?_⟩
  · exact atOperand_after_literal high.property
      ((context.inList_after_of_isLiteral low.property).trans outside)
      (by simp [LexicalContext.after])
  · intro field
    simp [Grammar.Body.clause, Clause.map, Literal.ofToken, stands, standsHigh]
  · have text : writeValue value ++ "..".toList ++ writeValue upper ++ rest =
        writeValue value ++ '.' :: '.' :: (writeValue upper ++ rest) := by simp
    rw [text, read, parted, readHigh]
    rfl

theorem readsBody_list (value : String) (others : List String) :
    ReadsBody ("IN(".toList ++ [','].intercalate ((value :: others).map writeValue) ++ [')']) rest
      (.member field (value :: others)) := by
  intro context position colon outside
  let items := [','].intercalate ((value :: others).map writeValue)
  have opens : context.kindOf ⟨.plainWord, "IN".toList, '(' :: (items ++ ')' :: rest)⟩ =
      .keyword .isIn := by
    have sameWord : sameIgnoringAsciiCase ['I', 'N'] ['I', 'N'] = true := by decide
    have visible : isBlank '(' = false := by decide
    simp [LexicalContext.kindOf, LexicalContext.wordKind, LexicalContext.expectsValue_of_colon colon,
      LexicalContext.opensList, colon, sameWord, visible]
  have ends : EndsWord "IN".toList ('(' :: (items ++ ')' :: rest)) := ⟨rfl, by simp⟩
  have chars : ∀ c ∈ "IN".toList, isWordChar c = true := List.all_eq_true.1 (by decide)
  obtain ⟨span, position₁, word⟩ := tokens_word (by decide) chars (by decide) ends
    (Lexeme.withStar_of_ne (by simp) _ _) context position
  rw [opens] at word
  obtain ⟨opening, position₂, opened⟩ := tokens_mark (by decide)
    (Lexeme.first_leftParen (items ++ ')' :: rest)) (context.after (.keyword .isIn)) position₁
  have inside : ((context.after (.keyword .isIn)).after .leftParen).inList = true := by
    simp [LexicalContext.after]
  obtain ⟨list, position₃, context₃, stand, listed⟩ :=
    tokens_items value others rest inside position₂
  obtain ⟨closing, position', closed⟩ := tokens_mark (by decide) (Lexeme.first_rightParen rest)
    context₃ position₃
  refine ⟨.list ⟨⟨.keyword .isIn, String.ofList "IN".toList, span⟩, rfl⟩ opening list closing,
    position', context₃.after .rightParen, context₃.atOperand_after_rightParen, ?_, ?_⟩
  · intro field
    simp [Grammar.Body.clause, Clause.map, stand]
  · have text : "IN(".toList ++ items ++ [')'] ++ rest =
        "IN".toList ++ '(' :: (items ++ ')' :: rest) := by simp
    rw [text, word, opened, listed, closed]
    simp [Grammar.Body.tokens]

/-- What stands behind the colon of a field is read as the leaf with the field. -/
theorem tokens_onField {text : List Char} {clause : Clause φ String} (name : String)
    (valid : isFieldName name.toList = true) (reads : ReadsBody text rest clause)
    (place : context.AtOperand) (position : Nat) :
    ∃ leaf : Grammar.Leaf, ∃ position' context', context'.AtOperand ∧
      leaf.tree.formula.map (Clause.map FieldName.name Literal.text) =
        .atom (clause.map (fun _ => name) id) ∧
      tokens ⟨name.toList ++ ':' :: (text ++ rest), position, context, false⟩ =
        leaf.tokens ++ tokens ⟨rest, position', context', false⟩ := by
  obtain ⟨field, colon, position₁, named, read⟩ :=
    tokens_field name (text ++ rest) valid context position
  obtain ⟨body, position', context', after, stands, later⟩ :=
    reads ((context.after .fieldName).after .colon) position₁ rfl place.inList_eq
  refine ⟨.onField field colon body, position', context', after, ?_, ?_⟩
  · rw [← named]
    exact congrArg Formula.atom (stands (.ofToken field.val))
  · rw [read, later]
    rfl

/-- The text of a clause is read as one leaf, which stands for the clause in canonical form. -/
theorem tokens_clause {clause : Clause Field String} (writable : clause.Writable)
    (apart : ¬clause.Glued) (seam : Seam rest) (place : context.AtOperand) (position : Nat) :
    ∃ leaf : Grammar.Leaf, ∃ position' context', context'.AtOperand ∧
      leaf.tree.formula.map (Clause.map FieldName.name Literal.text) =
        .atom (clause.canonical.map Field.name id) ∧
      tokens ⟨clause.write ++ rest, position, context, false⟩ =
        leaf.tokens ++ tokens ⟨rest, position', context', false⟩ := by
  cases clause with
  | term value =>
    obtain ⟨token, position', stands, kind, read⟩ := tokens_writeTerm value seam place.1 position
    refine ⟨.term token, position', context.after token.val.kind, place.after ?_, ?_, read⟩
    · rcases kind with quoted | word
      · rw [quoted]; rfl
      · rw [word]; rfl
    · simp [Grammar.Leaf.tree, Tree.formula, Formula.map, Clause.map, Clause.canonical, stands]
  | wildcard stem quoted =>
    obtain ⟨token, position', stands, quotes, read⟩ :=
      tokens_writeStem stem quoted rest context position
    refine ⟨.wildcard token, position', context.after .wildcard, place.after rfl, ?_, ?_⟩
    · simp [Grammar.Leaf.tree, Tree.formula, Formula.map, Clause.map, Clause.canonical, stands,
        quotes]
    · simpa [Clause.write, Grammar.Leaf.tokens] using read
  | equals field value =>
    simpa [Clause.write, Clause.canonical, Clause.map] using tokens_onField field.name writable
      (readsBody_equals field value seam) place position
  | range field operator value upper =>
    have whole := fun {text} {clause : Clause Field String} (reads : ReadsBody text rest clause) =>
      tokens_onField field.name writable reads place position
    cases operator with
    | bound comparison =>
      have apart' (strict : comparison = .above ∨ comparison = .below) :
          (writeValue value).head? ≠ some '=' := fun equals => apart ⟨strict, equals⟩
      simpa [Clause.write, Clause.canonical, Clause.map, writeRange] using
        whole (readsBody_bound field comparison value seam apart')
    | between =>
      cases upper with
      | some upper =>
        simpa [Clause.write, Clause.canonical, Clause.map, writeRange] using
          whole (readsBody_between field value upper seam)
      | none =>
        simpa [Clause.write, Clause.canonical, Clause.map, writeRange, Comparison.symbol] using
          whole (readsBody_bound field .atLeast value seam (by simp))
  | member field values =>
    obtain ⟨valid, nonempty⟩ := writable
    obtain ⟨value, others, rfl⟩ := List.exists_cons_of_ne_nil nonempty
    simpa [Clause.write, Clause.canonical, Clause.map] using tokens_onField field.name valid
      (readsBody_list field value others) place position

end Lexer

end SearchBox
