import SearchBox.Proofs.Canonical.Parsing
import SearchBox.Proofs.Literals
import SearchBox.Proofs.Sql.Compile

/-! Saving a query as text. What the text of an expression leaves out, the compiler leaves out too, so
the expression that is read back compiles to the same statements. -/

namespace SearchBox

/-- A number or a date begins with no equals sign. -/
theorem FieldType.head?_ne_of_accepts {type : FieldType} (ordered : type = .number ∨ type = .date)
    {text : List Char} (accepted : type.accepts text = true) : text.head? ≠ some '=' := by
  have digits {digits : List Char} (some : IsDigits digits) (rest : List Char) :
      (digits ++ rest).head? ≠ Option.some '=' := by
    obtain ⟨c, later, rfl⟩ := List.exists_cons_of_ne_nil some.1
    intro equals
    have digit := some.2 c (by simp)
    rw [List.cons_append, List.head?_cons, Option.some.injEq] at equals
    subst equals
    cases digit
  rcases ordered with rfl | rfl
  · obtain ⟨sign, whole, fraction, rfl, signed, number, _⟩ := isNumber_iff.1 accepted
    simp only [List.mem_cons, List.not_mem_nil, or_false] at signed
    rcases signed with rfl | rfl | rfl
    · exact digits number fraction
    · simp
    · simp
  · obtain ⟨year, month, day, rfl, ⟨_, number⟩, _⟩ := isCalendarDate_of_isCalendarDate accepted
    exact digits number _

namespace Clause

/-- The values that stand in the text of the clause. -/
def writtenValues : Clause Field String → List String
  | term _ | wildcard _ _ => []
  | equals _ value => [value]
  | range _ .between low (some high) => [low, high]
  | range _ _ low _ => [low]
  | member _ values => values

def IsRange : Clause Field String → Prop
  | range _ _ _ _ => True
  | _ => False

/-- What a clause needs so that its text is read against the schema: a field that can be named and is
declared, with an ordered type if it is compared by order, written values of that type, and a list
with values that hold no comma. Second bounds, quotes and the types noted with fields are free. -/
structure Savable (schema : Schema) (clause : Clause Field String) : Prop where
  named : ∀ field, clause.field? = some field → field.Nameable
  declared : ∀ field, clause.field? = some field → ∃ declaration,
    schema.lookup? field.name = some declaration ∧
      (clause.IsRange → declaration.type = .number ∨ declaration.type = .date) ∧
      ∀ value ∈ clause.writtenValues, declaration.type.accepts value.toList = true
  filled : clause.Filled
  listed : clause.Listable

variable {schema : Schema} {clause : Clause Field String}

theorem suits_canonical {type : FieldType}
    (ordered : clause.IsRange → type = .number ∨ type = .date)
    (accepted : ∀ value ∈ clause.writtenValues, type.accepts value.toList = true) :
    clause.canonical.Suits type := by
  cases clause with
  | term => trivial
  | wildcard => trivial
  | equals field value => exact accepted value (by simp [writtenValues])
  | member field values => exact accepted
  | range field operator value upper =>
    have isOrdered : type.isOrdered = true := by
      rcases ordered trivial with rfl | rfl <;> rfl
    cases operator with
    | bound comparison => exact ⟨isOrdered, accepted⟩
    | between => cases upper <;> exact ⟨isOrdered, accepted⟩

namespace Savable

theorem writable (savable : clause.Savable schema) : clause.Writable :=
  writable_of_nameable savable.named savable.filled

theorem not_glued (savable : clause.Savable schema) : ¬clause.Glued := by
  intro glued
  cases clause with
  | range field operator value upper =>
    cases operator with
    | bound comparison =>
      obtain ⟨declaration, _, ordered, accepted⟩ := savable.declared field rfl
      exact FieldType.head?_ne_of_accepts (ordered trivial)
        (accepted value (by simp [writtenValues])) (head?_of_writeValue (by decide) glued.2)
    | between => exact glued
  | _ => exact glued

theorem valid_canonical (savable : clause.Savable schema) : clause.canonical.Valid schema := by
  refine ⟨?_, listable_canonical savable.listed, ?_⟩
  · rw [field?_canonical]
    exact savable.named
  · intro _ field found
    rw [field?_canonical] at found
    obtain ⟨declaration, declared, ordered, accepted⟩ := savable.declared field found
    exact ⟨declaration, declared, suits_canonical ordered accepted⟩

end Savable

/-- What is lost when a clause is written and read is nothing that the compiler looks at. -/
theorem alternatives_reread (target : Sql.Target) (schema : Schema) (clause : Clause Field String) :
    target.alternatives (clause.reread schema) = target.alternatives clause := by
  cases clause with
  | range field operator value upper =>
    cases operator with
    | bound comparison => rfl
    | between => cases upper <;> rfl
  | member field values => simp [reread, canonical, resolve, Clause.map, Sql.Target.alternatives,
      Sql.Target.onField, Field.ofName]
  | _ => rfl

end Clause

theorem Sql.compile_reread (options : Options) (schema schema' : Schema) (columns : List String)
    (expression : Expression) :
    compile options schema columns (expression.map (Clause.reread schema')) =
      compile options schema columns expression := by
  cases found : TextSearch.ofOptions options with
  | error failure =>
    rw [compile_of_ofOptions_eq_error found, compile_of_ofOptions_eq_error found]
  | ok search =>
    have same : (Target.of schema columns search).alternatives ∘ Clause.reread schema' =
        (Target.of schema columns search).alternatives :=
      funext (Clause.alternatives_reread _ schema')
    rw [compile_of_ofOptions found, compile_of_ofOptions found, Formula.mapExcept_map, same]

/-- The text of an expression on declared fields is read against the schema, and what is read compiles
to the same statement as the expression, or fails with the same error, whatever the options and the
columns are. -/
theorem Query.compile_parse_text {schema : Schema} {expression : Expression}
    (savable : ∀ clause ∈ expression.atoms, clause.Savable schema) {limits : Limits}
    (deep : 2 * expression.depth ≤ limits.maxDepth)
    (long : byteWidth expression.text.toList ≤ limits.maxInputLength) :
    ∃ saved, parse limits schema expression.text = .ok ⟨some saved⟩ ∧
      ∀ options columns, Sql.compile options schema columns saved =
        Sql.compile options schema columns expression := by
  refine ⟨expression.map (Clause.reread schema), ?_, ?_⟩
  · exact parse_text (fun clause member => (savable clause member).writable)
      (fun clause member => (savable clause member).not_glued)
      (fun clause member => (savable clause member).valid_canonical) deep long
  · exact fun options columns => Sql.compile_reread options schema schema columns expression

theorem Query.compile_parse_text_lossy : ∃ (schema : Schema) (expression : Expression),
    expression.text = "((PRICE:>=+2 OR NOT (\"a b\"*)) AND made:<2024-02-29)" ∧
    (∀ clause ∈ expression.atoms, clause.Savable schema) ∧ 2 * expression.depth ≤ 8 ∧
    byteWidth expression.text.toList ≤ 64 ∧
    ∃ saved, parse ⟨64, 8⟩ schema expression.text = .ok ⟨some saved⟩ ∧ saved ≠ expression ∧
      ∀ options columns, Sql.compile options schema columns saved =
        Sql.compile options schema columns expression := by
  let schema : Schema := ⟨[⟨"Price", .number⟩, ⟨"made", .date⟩]⟩
  let expression : Expression := .join .and
    (.join .or (.atom (.range ⟨"PRICE", some .string⟩ .between "+2" none))
      (.negation (.atom (.wildcard "a b" false))))
    (.atom (.range ⟨"made", none⟩ (.bound .below) "2024-02-29" (some "junk")))
  have savable : ∀ clause ∈ expression.atoms, clause.Savable schema := by
    have price : isFieldName "PRICE".toList = true ∧ Keyword.ofWord? "PRICE".toList = none ∧
        schema.lookup? "PRICE" = some ⟨"Price", .number⟩ ∧
        FieldType.number.accepts "+2".toList = true := by decide +kernel
    have made : isFieldName "made".toList = true ∧ Keyword.ofWord? "made".toList = none ∧
        schema.lookup? "made" = some ⟨"made", .date⟩ ∧
        FieldType.date.accepts "2024-02-29".toList = true := by decide +kernel
    intro clause member
    simp only [expression, Formula.atoms, List.cons_append, List.nil_append, List.mem_cons,
      List.not_mem_nil, or_false] at member
    rcases member with rfl | rfl | rfl <;>
      constructor <;> simp_all [Clause.field?, Field.Nameable, Clause.writtenValues,
        Clause.Filled, Clause.Listable]
  have text : expression.text = "((PRICE:>=+2 OR NOT (\"a b\"*)) AND made:<2024-02-29)" := by
    decide +kernel
  have deep : 2 * expression.depth ≤ 8 := by decide
  have long : byteWidth expression.text.toList ≤ 64 := by decide +kernel
  obtain ⟨saved, read, same⟩ : ∃ saved, parse ⟨64, 8⟩ schema expression.text = .ok ⟨some saved⟩ ∧
      ∀ options columns, Sql.compile options schema columns saved =
        Sql.compile options schema columns expression := compile_parse_text savable deep long
  have changed : parse ⟨64, 8⟩ schema expression.text ≠ .ok ⟨some expression⟩ := by decide +kernel
  refine ⟨schema, expression, text, savable, deep, long, saved, read, ?_, same⟩
  rintro rfl
  exact changed read

end SearchBox
