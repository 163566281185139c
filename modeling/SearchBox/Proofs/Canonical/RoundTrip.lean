import SearchBox.Proofs.Canonical.Collisions
import SearchBox.Proofs.Canonical.Parsing
import SearchBox.Proofs.Grammar.Unambiguity

/-! Writing an expression and reading it again. The expression that comes back is the canonical one,
which is the same expression unless a beginning has to be put in quotes; and where a value joins the
symbol before it, another expression comes back or none at all. -/

namespace SearchBox

namespace Clause

/-- Every field has the type that the schema declares for it. -/
def Resolved (schema : Schema) (clause : Clause Field String) : Prop :=
  ∀ field, clause.field? = some field →
    field.type? = (schema.lookup? field.name).map Declaration.type

/-- An unquoted beginning is a word. -/
def WordStem {φ ν : Type} : Clause φ ν → Prop
  | .wildcard stem false => stem.toList ≠ [] ∧ (∀ c ∈ stem.toList, isWordChar c = true) ∧
      containsSpan stem.toList = false
  | _ => True

theorem shaped_map {φ ν φ' ν' : Type} (onField : φ → φ') (onValue : ν → ν')
    {clause : Clause φ ν} (shaped : clause.Shaped) : (clause.map onField onValue).Shaped := by
  cases clause with
  | range => simpa [Clause.map, Shaped] using shaped
  | member => simpa [Clause.map, Shaped] using shaped
  | _ => trivial

theorem wordStem_map {φ ν φ' ν' : Type} (onField : φ → φ') (onValue : ν → ν')
    {clause : Clause φ ν} (word : clause.WordStem) : (clause.map onField onValue).WordStem := by
  cases clause with
  | wildcard stem quoted => cases quoted <;> exact word
  | _ => trivial

/-- What is known of every clause of an expression that was read. -/
structure WasRead (schema : Schema) (clause : Clause Field String) : Prop where
  valid : clause.Valid schema
  shaped : clause.Shaped
  resolved : clause.Resolved schema
  wordStem : clause.WordStem

/-- A clause that writing and reading leaves as it is: an unquoted beginning has no backslash, and no
value that stands without quotes after `>` or `<` begins with an equals sign. -/
def Faithful : Clause Field String → Prop
  | .wildcard stem quoted => quoted = true ∨ '\\' ∉ stem.toList
  | .range _ (.bound comparison) value _ =>
    comparison = .above ∨ comparison = .below → (writeValue value).head? ≠ some '='
  | _ => True

variable {schema : Schema} {clause : Clause Field String}

theorem Faithful.not_glued (faithful : clause.Faithful) : ¬clause.Glued := by
  intro glued
  cases clause with
  | range field operator value upper =>
    cases operator with
    | bound comparison => exact faithful glued.1 glued.2
    | between => exact glued
  | _ => exact glued

theorem WasRead.writable (known : clause.WasRead schema) : clause.Writable :=
  writable_of_nameable known.valid.named known.shaped.filled

/-- A clause that is not glued is its own canonical form exactly if it is faithful. -/
theorem WasRead.canonical_eq_iff (known : clause.WasRead schema) (apart : ¬clause.Glued) :
    clause.canonical = clause ↔ clause.Faithful := by
  cases clause with
  | wildcard stem quoted =>
    cases quoted with
    | true => simp [canonical, Faithful]
    | false =>
      obtain ⟨nonempty, chars, noSpan⟩ := known.wordStem
      have bare : isBareWord stem.toList = true ↔ '\\' ∉ stem.toList := by
        rw [isBareWord_iff]
        constructor
        · rintro ⟨_, _, plain⟩ inside
          exact (plain _ inside).2 rfl
        · intro absent
          exact ⟨nonempty, noSpan, fun c inside => ⟨chars c inside, fun same => absent (same ▸ inside)⟩⟩
      simp [canonical, Faithful, bare]
  | range field operator value upper =>
    have shaped := known.shaped
    cases operator with
    | bound comparison =>
      have none : upper = none := by simpa [Shaped] using shaped
      simp only [canonical, none, true_iff]
      exact fun strict equals => apart ⟨strict, equals⟩
    | between =>
      cases upper with
      | none => simp [Shaped] at shaped
      | some upper => simp [canonical, Faithful]
  | _ => simp [canonical, Faithful]

theorem WasRead.canonical (known : clause.WasRead schema) : clause.canonical.Valid schema := by
  cases clause with
  | wildcard stem quoted => exact ⟨nofun, trivial, nofun⟩
  | range field operator value upper =>
    have shaped := known.shaped
    cases operator with
    | bound comparison =>
      have none : upper = none := by simpa [Shaped] using shaped
      subst none
      exact known.valid
    | between =>
      cases upper with
      | none => simp [Shaped] at shaped
      | some upper => exact known.valid
  | _ => exact known.valid

end Clause

/-- Unquoted beginnings are words if they are words among the tokens. -/
theorem Grammar.Disjunction.wordStem (part : Disjunction)
    (words : ∀ token ∈ part.tokens, token.WordStem) :
    ∀ clause ∈ part.tree.formula.atoms, clause.WordStem := by
  refine part.forall_clauses Clause.WordStem Token.WordStem ?_ words
  intro leaf words clause member
  cases leaf with
  | wildcard token =>
    obtain rfl := List.mem_singleton.1 member
    have word := words token.val (by simp [Leaf.tokens]) token.property
    cases quoted : token.val.isQuoted with
    | true => simp [Clause.WordStem]
    | false => exact word quoted
  | term token => obtain rfl := List.mem_singleton.1 member; trivial
  | onField field colon body =>
    obtain rfl := List.mem_singleton.1 member
    cases body <;> trivial

namespace Query

/-- What reading a query tells about the clauses of its expression. -/
theorem wasRead_of_parse {limits : Limits} {schema : Schema} {input : String}
    {expression : Expression} (parsed : parse limits schema input = .ok ⟨some expression⟩) :
    ∀ clause ∈ expression.atoms, clause.WasRead schema := by
  obtain ⟨_, tree, found, rfl, valid⟩ := parse_eq_ok.1 parsed
  obtain ⟨body, stop, same, inside⟩ := Lexer.tokens_end (Lexer.ofText input) rfl
  rw [tokenize, same] at found
  obtain ⟨part, derived, rfl⟩ := Grammar.derived_of_ofTokens inside found
  have stems := part.wordStem fun token member => Lexer.wordStem_tokens input token (by
    rw [tokenize, same, ← derived]
    exact List.mem_append_left _ member)
  intro clause member
  have valid' := valid clause member
  rw [Tree.expression, Formula.atoms_map] at member
  obtain ⟨written, inTree, rfl⟩ := List.mem_map.1 member
  refine ⟨valid', Clause.shaped_map _ _ (part.shaped written inTree), ?_,
    Clause.wordStem_map _ _ (stems written inTree)⟩
  intro field named
  rw [Clause.field?_map, Option.map_eq_some_iff] at named
  obtain ⟨name, _, rfl⟩ := named
  rfl

end Query

theorem Clause.Resolved.resolve_eq {schema : Schema} {clause : Clause Field String}
    (resolved : clause.Resolved schema) : clause.resolve schema = clause := by
  have known (field : Field) (named : clause.field? = some field) :
      Field.ofName schema field.name = field := by
    rw [Field.ofName, ← resolved field named]
  cases clause with
  | term => rfl
  | wildcard => rfl
  | equals field value => simp [resolve, Clause.map, known field rfl]
  | range field operator value upper => simp [resolve, Clause.map, known field rfl]
  | member field values => simp [resolve, Clause.map, known field rfl]

theorem Clause.Resolved.canonical {schema : Schema} {clause : Clause Field String}
    (resolved : clause.Resolved schema) : clause.canonical.Resolved schema := by
  cases clause with
  | range field operator value upper =>
    cases operator with
    | bound => exact resolved
    | between => cases upper <;> exact resolved
  | wildcard => nofun
  | _ => exact resolved

namespace Query

/-- The text of an expression that was read, unless a value joins the symbol before it, is read as
the expression in canonical form. -/
theorem parse_canonical {limits : Limits} {schema : Schema} {expression : Expression}
    (known : ∀ clause ∈ expression.atoms, clause.WasRead schema)
    (apart : ∀ clause ∈ expression.atoms, ¬clause.Glued)
    (deep : 2 * expression.depth ≤ limits.maxDepth)
    (long : byteWidth expression.text.toList ≤ limits.maxInputLength) :
    parse limits schema expression.text = .ok ⟨some (expression.map Clause.canonical)⟩ := by
  have same : expression.map (Clause.reread schema) = expression.map Clause.canonical := by
    rw [Formula.map_congr_iff]
    exact fun clause member => (known clause member).resolved.canonical.resolve_eq
  rw [← same]
  exact parse_text (fun clause member => (known clause member).writable) apart
    (fun clause member => (known clause member).canonical) deep long

/-- A text with the symbols of another expression is not read as this one. -/
theorem comparisons_of_parse {limits : Limits} {schema : Schema} {input : String}
    {expression : Expression} (parsed : parse limits schema input = .ok ⟨some expression⟩) :
    (Lexer.ofText input).comparisons = Formula.comparisons expression := by
  obtain ⟨_, tree, found, rfl, _⟩ := parse_eq_ok.1 parsed
  obtain ⟨body, stop, same, inside⟩ := Lexer.tokens_end (Lexer.ofText input) rfl
  rw [tokenize, same] at found
  obtain ⟨part, derived, rfl⟩ := Grammar.derived_of_ofTokens inside found
  have here : body.filterMap Token.comparison? = part.tree.formula.comparisons := by
    rw [← derived]
    exact Grammar.Closed.comparisons.disjunction part
  rw [Lexer.comparisons, same, List.filterMap_append, here, Tree.expression,
    Formula.comparisons_map fun clause _ => clause.comparison?_map _ _]
  simp [Token.comparison?, Token.atEnd]

/-- Reading the text of an expression that was read gives the same expression exactly if every
clause of it is faithful. -/
theorem parse_text_iff_faithful {limits limits' : Limits} {schema : Schema} {input : String}
    {expression : Expression} (parsed : parse limits schema input = .ok ⟨some expression⟩)
    (deep : 2 * expression.depth ≤ limits'.maxDepth)
    (long : byteWidth expression.text.toList ≤ limits'.maxInputLength) :
    parse limits' schema expression.text = .ok ⟨some expression⟩ ↔
      ∀ clause ∈ expression.atoms, clause.Faithful := by
  have known := wasRead_of_parse parsed
  by_cases apart : ∀ clause ∈ expression.atoms, ¬clause.Glued
  · rw [parse_canonical known apart deep long]
    simp only [Except.ok.injEq, Query.mk.injEq, Option.some.injEq, Formula.map_eq_self_iff]
    exact forall₂_congr fun clause member =>
      (known clause member).canonical_eq_iff (apart clause member)
  · have glued : ∃ clause ∈ expression.atoms, clause.Glued := by
      simpa using apart
    constructor
    · intro same
      have diverges := Lexer.comparisons_expression []
        (fun clause member => (known clause member).writable)
        (fun clause member => (known clause member).shaped) glued LexicalContext.AtOperand.start 0
      rw [List.append_nil, ← expression.toList_text] at diverges
      exact (diverges.ne (comparisons_of_parse same)).elim
    · intro faithful
      obtain ⟨clause, member, joined⟩ := glued
      exact ((faithful clause member).not_glued joined).elim

theorem parse_text_mixed : ∃ expression : Expression,
    parse .default ⟨[⟨"Price", .number⟩, ⟨"tag", .string⟩]⟩
        "NOT so* price:1..2 OR tag:in(a, \"b c\")" = .ok ⟨some expression⟩ ∧
      2 * expression.depth ≤ 8 ∧ byteWidth expression.text.toList ≤ 60 ∧
      parse ⟨60, 8⟩ ⟨[⟨"Price", .number⟩, ⟨"tag", .string⟩]⟩ expression.text =
        .ok ⟨some expression⟩ := by
  let expression : Expression := .join .or
    (.join .and (.negation (.atom (.wildcard "so" false)))
      (.atom (.range ⟨"price", some .number⟩ .between "1" (some "2"))))
    (.atom (.member ⟨"tag", some .string⟩ ["a", "b c"]))
  have parsed : parse .default ⟨[⟨"Price", .number⟩, ⟨"tag", .string⟩]⟩
      "NOT so* price:1..2 OR tag:in(a, \"b c\")" = .ok ⟨some expression⟩ := by decide +kernel
  have deep : 2 * expression.depth ≤ 8 := by decide
  have long : byteWidth expression.text.toList ≤ 60 := by decide +kernel
  have faithful : ∀ clause ∈ expression.atoms, clause.Faithful := by
    simp [expression, Formula.atoms, Clause.Faithful]
  exact ⟨expression, parsed, deep, long, (parse_text_iff_faithful parsed deep long).2 faithful⟩

/-- The text of `f:> =5` is read as a comparison by `>=`. -/
theorem not_parse_text : ¬∀ (limits limits' : Limits) (schema : Schema) (input : String)
    (expression : Expression), parse limits schema input = .ok ⟨some expression⟩ →
      2 * expression.depth ≤ limits'.maxDepth →
      byteWidth expression.text.toList ≤ limits'.maxInputLength →
      parse limits' schema expression.text = .ok ⟨some expression⟩ := by
  intro always
  have again := always .default .default ⟨[]⟩ "f:> =5"
    (.atom (.range ⟨"f", none⟩ (.bound .above) "=5" none)) (by decide +kernel) (by decide)
    (by decide +kernel)
  have other : parse .default ⟨[]⟩
      (Expression.text (.atom (.range ⟨"f", none⟩ (.bound .above) "=5" none))) =
        .ok ⟨some (.atom (.range ⟨"f", none⟩ (.bound .atLeast) "5" none))⟩ := by decide +kernel
  rw [other] at again
  simp at again

end Query

end SearchBox
