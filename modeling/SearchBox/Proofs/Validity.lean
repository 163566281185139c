import SearchBox.Proofs.Formula
import SearchBox.Proofs.Merging
import SearchBox.Query

/-! When a query is valid. A tree has no problems exactly if every clause of the expression it
stands for meets what the schema asks, told without spans and messages. -/

namespace SearchBox

/-- The values of the clause suit a field of the type. -/
def Clause.Suits (type : FieldType) : Clause Field String → Prop
  | .term _ | .wildcard _ _ => True
  | .equals _ value => type.accepts value.toList = true
  | .range _ _ low upper =>
    type.isOrdered = true ∧ ∀ value ∈ low :: upper.toList, type.accepts value.toList = true
  | .member _ values => ∀ value ∈ values, type.accepts value.toList = true

/-- Values of a list hold no comma. -/
def Clause.Listable : Clause Field String → Prop
  | .member _ values => ∀ value ∈ values, ',' ∉ value.toList
  | _ => True

/-- A list has a value. -/
def Clause.Filled : Clause Field String → Prop
  | .member _ values => values ≠ []
  | _ => True

/-- The name can name a field. -/
def Field.Nameable (field : Field) : Prop :=
  isFieldName field.name.toList = true ∧ Keyword.ofWord? field.name.toList = none

/-- What a clause of a valid query satisfies. -/
structure Clause.Valid (schema : Schema) (clause : Clause Field String) : Prop where
  named : ∀ field, clause.field? = some field → field.Nameable
  listed : clause.Listable
  typed : schema.isEmpty = false → ∀ field, clause.field? = some field →
    ∃ declaration, schema.lookup? field.name = some declaration ∧ clause.Suits declaration.type

namespace Tree

theorem atoms_formula (tree : Tree) : tree.formula.atoms = tree.leaves.map Prod.snd := by
  induction tree with
  | leaf span clause => rfl
  | join connective span depth left right leftIh rightIh =>
    simp [formula, Formula.atoms, leaves, leftIh, rightIh]
  | negation span depth inner ih => exact ih

theorem atoms_expression (schema : Schema) (tree : Tree) : (tree.expression schema).atoms =
    tree.leaves.map fun leaf => leaf.2.map (resolve schema) Literal.text := by
  simp [expression, atoms_formula]

end Tree

theorem FieldName.problems_eq_nil (schema : Schema) {field : FieldName} :
    field.problems = [] ↔ (Tree.resolve schema field).Nameable := by
  unfold FieldName.problems Field.Nameable Tree.resolve
  cases isFieldName field.name.toList <;> cases Keyword.ofWord? field.name.toList <;> simp

theorem Literal.listProblems_eq_nil {value : Literal} :
    value.listProblems = [] ↔ ',' ∉ value.text.toList := by
  unfold Literal.listProblems
  split <;> simp_all

theorem Literal.typeProblems_eq_nil {type : FieldType} {field : FieldName} {value : Literal} :
    value.typeProblems type field = [] ↔ type.accepts value.text.toList = true := by
  unfold Literal.typeProblems
  split <;> simp_all

namespace Clause

variable {schema : Schema} {clause : Clause FieldName Literal}

@[simp] theorem field?_map {φ ν φ' ν' : Type} (onField : φ → φ') (onValue : ν → ν')
    (clause : Clause φ ν) : (clause.map onField onValue).field? = clause.field?.map onField := by
  cases clause <;> rfl

theorem structuralProblems_eq_nil (schema : Schema) : clause.structuralProblems = [] ↔
    (∀ field, (clause.map (Tree.resolve schema) Literal.text).field? = some field →
      field.Nameable) ∧ (clause.map (Tree.resolve schema) Literal.text).Listable := by
  cases clause <;>
    simp [structuralProblems, Clause.field?, Clause.map, Listable,
      FieldName.problems_eq_nil schema, Literal.listProblems_eq_nil]

theorem typeProblems_eq_nil (schema : Schema) {type : FieldType} {span : Span} :
    clause.typeProblems type span = [] ↔
      (clause.map (Tree.resolve schema) Literal.text).Suits type := by
  cases clause with
  | term => simp [typeProblems, Clause.map, Suits]
  | wildcard => simp [typeProblems, Clause.map, Suits]
  | equals => simp [typeProblems, Clause.map, Suits, Literal.typeProblems_eq_nil]
  | range field operator value upper =>
    by_cases ordered : type.isOrdered = true <;> cases upper <;>
      simp [typeProblems, Clause.map, Suits, ordered, Literal.typeProblems_eq_nil]
  | member => simp [typeProblems, Clause.map, Suits, Literal.typeProblems_eq_nil]

theorem schemaProblems_eq_nil {names : List String} {span : Span} :
    clause.schemaProblems schema names span = [] ↔
      ∀ field, (clause.map (Tree.resolve schema) Literal.text).field? = some field →
        ∃ declaration, schema.lookup? field.name = some declaration ∧
          (clause.map (Tree.resolve schema) Literal.text).Suits declaration.type := by
  unfold schemaProblems
  cases named : clause.field? with
  | none => simp [named]
  | some field =>
    cases found : schema.lookup? field.name with
    | none => simp [named, found, Tree.resolve]
    | some declaration =>
      simp [named, found, Tree.resolve, typeProblems_eq_nil schema]

end Clause

/-- A tree has no problems exactly if every clause it stands for is valid. -/
theorem Tree.problems_eq_nil {schema : Schema} {tree : Tree} : tree.problems schema = [] ↔
    ∀ clause ∈ (tree.expression schema).atoms, clause.Valid schema := by
  rw [problems, mergeDiagnostics_eq_nil, structuralProblems, schemaProblems, atoms_expression]
  constructor
  · rintro ⟨structural, schematic⟩ clause member
    obtain ⟨leaf, inside, rfl⟩ := List.mem_map.1 member
    obtain ⟨named, listed⟩ := (Clause.structuralProblems_eq_nil schema).1
      (List.flatMap_eq_nil_iff.1 structural leaf inside)
    refine ⟨named, listed, ?_⟩
    intro filled
    rw [filled] at schematic
    exact Clause.schemaProblems_eq_nil.1 (List.flatMap_eq_nil_iff.1 schematic leaf inside)
  · intro valid
    have each (leaf) (inside : leaf ∈ tree.leaves) := valid _ (List.mem_map_of_mem inside)
    constructor
    · apply List.flatMap_eq_nil_iff.2
      intro leaf inside
      obtain ⟨named, listed, _⟩ := each leaf inside
      exact (Clause.structuralProblems_eq_nil schema).2 ⟨named, listed⟩
    · split
      · rfl
      · next filled =>
        apply List.flatMap_eq_nil_iff.2
        intro leaf inside
        exact Clause.schemaProblems_eq_nil.2 ((each leaf inside).typed (by simpa using filled))

/-! The problems of a tree are collected. None of them stops the reading of a query. -/

def Collected (diagnostics : List Diagnostic) : Prop :=
  ∀ diagnostic ∈ diagnostics, diagnostic.code.isSyntax = false

namespace Collected

variable {first second : List Diagnostic}

theorem nil : Collected [] :=
  nofun

theorem single {problem : Problem} (mild : problem.code.isSyntax = false) (span : Span) :
    Collected [problem.report span] :=
  List.forall_mem_singleton.2 mild

theorem append (inFirst : Collected first) (inSecond : Collected second) :
    Collected (first ++ second) :=
  List.forall_mem_append.2 ⟨inFirst, inSecond⟩

theorem flatMap {α : Type} (list : List α) {diagnostics : α → List Diagnostic}
    (each : ∀ a, Collected (diagnostics a)) : Collected (list.flatMap diagnostics) := by
  intro diagnostic member
  obtain ⟨a, _, inside⟩ := List.mem_flatMap.1 member
  exact each a diagnostic inside

end Collected

theorem FieldName.collected_problems (field : FieldName) : Collected field.problems := by
  apply Collected.append
  · split
    · exact .nil
    · exact .single rfl field.span
  · split
    · exact .single rfl field.span
    · exact .nil

theorem Literal.collected_listProblems (value : Literal) : Collected value.listProblems := by
  unfold listProblems
  split
  · exact .single rfl value.span
  · exact .nil

theorem Literal.collected_typeProblems (type : FieldType) (field : FieldName) (value : Literal) :
    Collected (value.typeProblems type field) := by
  unfold typeProblems
  split
  · exact .nil
  · exact .single rfl value.span

namespace Clause

variable (clause : Clause FieldName Literal)

theorem collected_structuralProblems : Collected clause.structuralProblems := by
  have named : Collected ((clause.field?.map FieldName.problems).getD []) := by
    cases clause.field? with
    | none => exact .nil
    | some field => exact field.collected_problems
  unfold structuralProblems
  split
  · exact named.append (.flatMap _ Literal.collected_listProblems)
  · exact named

theorem collected_typeProblems (type : FieldType) (span : Span) :
    Collected (clause.typeProblems type span) := by
  have values (field : FieldName) (values : List Literal) :
      Collected (values.flatMap (Literal.typeProblems type field)) :=
    .flatMap values (Literal.collected_typeProblems type field)
  cases clause with
  | term value => exact .nil
  | wildcard stem quoted => exact .nil
  | equals field value => exact value.collected_typeProblems type field
  | range field operator value upper =>
    rw [typeProblems]
    split
    · exact values field _
    · exact .single rfl span
  | member field listed => exact values field listed

theorem collected_schemaProblems (schema : Schema) (names : List String) (span : Span) :
    Collected (clause.schemaProblems schema names span) := by
  unfold schemaProblems
  split
  · exact .nil
  · next field _ =>
    split
    · exact .single rfl field.span
    · next declaration _ => exact clause.collected_typeProblems declaration.type span

end Clause

theorem Tree.collected_problems (schema : Schema) (tree : Tree) :
    Collected (tree.problems schema) := by
  have structural : Collected tree.structuralProblems :=
    .flatMap tree.leaves fun leaf => leaf.2.collected_structuralProblems
  have schematic : Collected (tree.schemaProblems schema) := by
    unfold schemaProblems
    split
    · exact .nil
    · exact .flatMap tree.leaves fun leaf => leaf.2.collected_schemaProblems schema _ leaf.1
  intro diagnostic member
  rcases mem_mergeDiagnostics.1 member with taken | ⟨new, _⟩
  · exact structural diagnostic taken
  · exact schematic diagnostic new

namespace Query

/-- A text that is short enough is read by its tokens; the schema is looked at only for a tree. -/
theorem parse_of_short {limits : Limits} {schema : Schema} {input : String}
    (short : byteWidth input.toList ≤ limits.maxInputLength) :
    parse limits schema input =
      match Tree.ofTokens (some limits.maxDepth) (tokenize input) with
      | .error diagnostic => .error ⟨[diagnostic]⟩
      | .ok none => .ok ⟨none⟩
      | .ok (some tree) => ofTree schema tree := by
  have within : checkLength limits input = .ok () := if_pos short
  rw [parse, within]
  rfl

/-- Reading a query succeeds with an expression exactly if the text is short enough, a tree is found
for its tokens, and every clause of the expression is valid. -/
theorem parse_eq_ok {limits : Limits} {schema : Schema} {input : String}
    {expression : Expression} : parse limits schema input = .ok ⟨some expression⟩ ↔
      byteWidth input.toList ≤ limits.maxInputLength ∧
      ∃ tree, Tree.ofTokens (some limits.maxDepth) (tokenize input) = .ok (some tree) ∧
        tree.expression schema = expression ∧
        ∀ clause ∈ expression.atoms, clause.Valid schema := by
  by_cases short : byteWidth input.toList ≤ limits.maxInputLength
  · have within : checkLength limits input = .ok () := if_pos short
    simp only [parse, within, short, true_and, bind, Except.bind]
    cases found : Tree.ofTokens (some limits.maxDepth) (tokenize input) with
    | error diagnostic => simp
    | ok tree? =>
      cases tree? with
      | none => simp
      | some tree =>
        simp only [Except.ok.injEq, Option.some.injEq, exists_eq_left']
        unfold ofTree
        split
        · next clean =>
          simp only [Except.ok.injEq, Query.mk.injEq, Option.some.injEq]
          constructor
          · rintro rfl
            exact ⟨rfl, Tree.problems_eq_nil.1 clean⟩
          · exact And.left
        · next dirty =>
          simp only [reduceCtorEq, false_iff, not_and]
          rintro rfl valid
          exact dirty (Tree.problems_eq_nil.2 valid)
  · simp [parse, checkLength, short, bind, Except.bind]

end Query

end SearchBox
