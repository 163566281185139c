import SearchBox.Proofs.Canonical.Parsing

/-! Expressions that are built and not read, with any strings for words, beginnings and values. The
canonical text denotes the expression up to the quotes of its beginnings, and reading the text and
writing it again changes nothing. -/

namespace SearchBox

namespace Clause

/-- The clause with its beginning in quotes if it cannot stand without them. -/
def normal : Clause Field String → Clause Field String
  | wildcard stem quoted => wildcard stem (quoted || !isBareWord stem.toList)
  | clause => clause

/-- What a clause needs so that its text denotes it: a field without a type that can be named, a
second bound for `BETWEEN` and for nothing else, a list with values that hold no comma, and no equals
sign at the front of a value behind `>` or `<`. -/
structure Denotable (clause : Clause Field String) : Prop where
  named : ∀ field, clause.field? = some field → field.type? = none ∧ field.Nameable
  shaped : clause.Shaped
  listed : clause.Listable
  apart : ∀ field comparison value upper, clause = .range field (.bound comparison) value upper →
    comparison = .above ∨ comparison = .below → value.toList.head? ≠ some '='

variable {clause : Clause Field String}

theorem write_normal (clause : Clause Field String) : clause.normal.write = clause.write := by
  cases clause with
  | wildcard stem quoted => simp [normal, write]
  | _ => rfl

namespace Denotable

theorem not_glued (denotable : clause.Denotable) : ¬clause.Glued := by
  intro glued
  cases clause with
  | range field operator value upper =>
    cases operator with
    | bound comparison =>
      obtain ⟨strict, equals⟩ := glued
      exact denotable.apart field comparison value upper rfl strict
        (head?_of_writeValue (by decide) equals)
    | between => exact glued
  | _ => exact glued

theorem writable (denotable : clause.Denotable) : clause.Writable :=
  writable_of_nameable (fun field found => (denotable.named field found).2) denotable.shaped.filled

/-- Where nothing is declared, well-formed names and lists are all that is asked for. -/
theorem valid_canonical (denotable : clause.Denotable) : clause.canonical.Valid ⟨[]⟩ := by
  refine ⟨?_, listable_canonical denotable.listed, nofun⟩
  intro field found
  rw [field?_canonical] at found
  exact (denotable.named field found).2

theorem reread_eq (denotable : clause.Denotable) : clause.reread ⟨[]⟩ = clause.normal := by
  have untyped (field : Field) (found : clause.field? = some field) :
      Field.ofName ⟨[]⟩ field.name = field := by
    have none := (denotable.named field found).1
    obtain ⟨name, type?⟩ := field
    exact congrArg (Field.mk name) none.symm
  cases clause with
  | term => rfl
  | wildcard => rfl
  | equals field value => simp [reread, canonical, resolve, Clause.map, normal, untyped field rfl]
  | member field values => simp [reread, canonical, resolve, Clause.map, normal, untyped field rfl]
  | range field operator value upper =>
    have shaped := denotable.shaped
    cases operator with
    | bound comparison =>
      have none : upper = none := by simpa [Shaped] using shaped
      simp [reread, canonical, resolve, Clause.map, normal, untyped field rfl, none]
    | between =>
      cases upper with
      | none => simp [Shaped] at shaped
      | some upper => simp [reread, canonical, resolve, Clause.map, normal, untyped field rfl]

end Denotable

end Clause

theorem Expression.text_normal (expression : Expression) :
    Expression.text (expression.map Clause.normal) = expression.text := by
  have same : Clause.write ∘ Clause.normal = Clause.write := funext Clause.write_normal
  rw [text, Formula.write_map, same, text]

/-- The canonical text of an expression is read as the expression itself, with quotes around the
beginnings that need them, and so the text is written again as it was. -/
theorem Query.parse_text_eq_normal {expression : Expression}
    (denotable : ∀ clause ∈ expression.atoms, clause.Denotable) {limits : Limits}
    (deep : 2 * expression.depth ≤ limits.maxDepth)
    (long : byteWidth expression.text.toList ≤ limits.maxInputLength) :
    parse limits ⟨[]⟩ expression.text = .ok ⟨some (expression.map Clause.normal)⟩ ∧
      Expression.text (expression.map Clause.normal) = expression.text := by
  refine ⟨?_, expression.text_normal⟩
  have same : expression.map (Clause.reread ⟨[]⟩) = expression.map Clause.normal := by
    rw [Formula.map_congr_iff]
    exact fun clause member => (denotable clause member).reread_eq
  rw [← same]
  exact parse_text (fun clause member => (denotable clause member).writable)
    (fun clause member => (denotable clause member).not_glued)
    (fun clause member => (denotable clause member).valid_canonical) deep long

theorem Query.parse_text_eq_normal_odd : ∃ expression : Expression,
    expression.text =
      "((\"\" AND NOT (\"a\\\\b\"*)) OR (f:\".5\"..\"or\" AND g:IN(=x,\"\\\"\",\" \")))" ∧
    (∀ clause ∈ expression.atoms, clause.Denotable) ∧ 2 * expression.depth ≤ 8 ∧
    byteWidth expression.text.toList ≤ 64 ∧
    parse ⟨64, 8⟩ ⟨[]⟩ expression.text = .ok ⟨some (expression.map Clause.normal)⟩ ∧
    Expression.text (expression.map Clause.normal) = expression.text := by
  let expression : Expression := .join .or
    (.join .and (.atom (.term "")) (.negation (.atom (.wildcard "a\\b" false))))
    (.join .and (.atom (.range ⟨"f", none⟩ .between ".5" (some "or")))
      (.atom (.member ⟨"g", none⟩ ["=x", "\"", " "])))
  have denotable : ∀ clause ∈ expression.atoms, clause.Denotable := by
    have nameable : isFieldName "f".toList = true ∧ isFieldName "g".toList = true ∧
        Keyword.ofWord? "f".toList = none ∧ Keyword.ofWord? "g".toList = none := by decide
    intro clause member
    simp only [expression, Formula.atoms, List.cons_append, List.nil_append, List.mem_cons,
      List.not_mem_nil, or_false] at member
    rcases member with rfl | rfl | rfl | rfl <;>
      constructor <;> simp_all [Clause.field?, Field.Nameable, Clause.Shaped, Clause.Listable]
  have text : expression.text =
      "((\"\" AND NOT (\"a\\\\b\"*)) OR (f:\".5\"..\"or\" AND g:IN(=x,\"\\\"\",\" \")))" := by
    decide +kernel
  have deep : 2 * expression.depth ≤ 8 := by decide
  have long : byteWidth expression.text.toList ≤ 64 := by decide +kernel
  exact ⟨expression, text, denotable, deep, long, parse_text_eq_normal denotable deep long⟩

end SearchBox
