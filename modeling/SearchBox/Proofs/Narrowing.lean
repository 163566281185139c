import SearchBox.Proofs.Canonical.Parsing
import SearchBox.Proofs.Merging
import SearchBox.Proofs.Reports

/-! What a schema adds. Reading a query is the same with every schema; the declarations add the types of
the fields and, where they are not kept, reports of their own between those that any schema brings. -/

namespace SearchBox

def Field.untyped (field : Field) : Field :=
  ⟨field.name, none⟩

def Expression.untyped (expression : Expression) : Expression :=
  expression.map (Clause.map Field.untyped id)

/-- The same query without the types of its fields. -/
def Query.untyped (query : Query) : Query :=
  ⟨query.expression?.map Expression.untyped⟩

/-! A schema has two things to say against a query: that a field is unknown, and that a value or a range
does not suit the type of its field. -/

section Codes

variable {type : FieldType} {field : FieldName} {span : Span} {d : Diagnostic}

theorem Literal.code_of_typeProblems {value : Literal} (member : d ∈ value.typeProblems type field) :
    d.code = .typeMismatch := by
  unfold typeProblems at member
  split at member
  · cases member
  · cases List.mem_singleton.1 member
    rfl

namespace Clause

variable {clause : Clause FieldName Literal}

theorem code_of_typeProblems (member : d ∈ clause.typeProblems type span) :
    d.code = .typeMismatch := by
  have ofValues {field : FieldName} {values : List Literal}
      (inValues : d ∈ values.flatMap (Literal.typeProblems type field)) : d.code = .typeMismatch := by
    obtain ⟨value, _, inValue⟩ := List.mem_flatMap.1 inValues
    exact Literal.code_of_typeProblems inValue
  cases clause with
  | term value => cases member
  | wildcard stem quoted => cases member
  | equals field value => exact Literal.code_of_typeProblems member
  | range field operator value upper =>
    rw [typeProblems] at member
    split at member
    · exact ofValues member
    · cases List.mem_singleton.1 member
      rfl
  | member field values => exact ofValues member

theorem code_of_schemaProblems {schema : Schema} {names : List String}
    (member : d ∈ clause.schemaProblems schema names span) :
    d.code = .unknownField ∨ d.code = .typeMismatch := by
  unfold schemaProblems at member
  split at member
  · cases member
  · split at member
    · cases List.mem_singleton.1 member
      exact .inl rfl
    · exact .inr (code_of_typeProblems member)

end Clause

theorem Tree.code_of_schemaProblems {schema : Schema} {tree : Tree}
    (member : d ∈ tree.schemaProblems schema) : d.code = .unknownField ∨ d.code = .typeMismatch := by
  unfold schemaProblems at member
  split at member
  · cases member
  · obtain ⟨leaf, _, inClause⟩ := List.mem_flatMap.1 member
    exact Clause.code_of_schemaProblems inClause

end Codes

/-- The reports of the other error are all in this one, in their order. What is added to them is told
against a schema, on spans that the other error has no report on. -/
structure QueryError.Extends (more error : QueryError) : Prop where
  sublist : error.diagnostics.Sublist more.diagnostics
  kept : more.diagnostics.filter (·.sharesSpan error.diagnostics) = error.diagnostics
  added : ∀ d ∈ more.diagnostics, d.sharesSpan error.diagnostics = false →
    d.code = .unknownField ∨ d.code = .typeMismatch

theorem QueryError.Extends.refl (error : QueryError) : error.Extends error where
  sublist := .refl _
  kept := filter_sharesSpan_self error.diagnostics
  added d member fresh := by
    rw [Diagnostic.sharesSpan_of_mem member] at fresh
    cases fresh

namespace Tree

variable {schema : Schema} {tree : Tree}

theorem expression_undeclared : tree.expression ⟨[]⟩ = (tree.expression schema).untyped := by
  rw [expression, Expression.untyped, expression, Formula.map_map, Formula.map_congr_iff]
  intro clause _
  rw [Function.comp, clause.map_map]
  rfl

/-- A schema without declarations has nothing to say. -/
theorem problems_undeclared : tree.problems ⟨[]⟩ = mergeDiagnostics tree.structuralProblems [] :=
  rfl

theorem sharesSpan_problems_undeclared (d : Diagnostic) :
    d.sharesSpan (tree.problems ⟨[]⟩) = d.sharesSpan tree.structuralProblems := by
  rw [Bool.eq_iff_iff, problems_undeclared]
  simp [Diagnostic.sharesSpan, mem_mergeDiagnostics_nil]

theorem filter_problems :
    (tree.problems schema).filter (·.sharesSpan (tree.problems ⟨[]⟩)) = tree.problems ⟨[]⟩ := by
  simp only [sharesSpan_problems_undeclared]
  exact filter_mergeDiagnostics

/-- With any schema, a tree has the problems that it has without one. -/
theorem extends_problems : QueryError.Extends ⟨tree.problems schema⟩ ⟨tree.problems ⟨[]⟩⟩ where
  sublist := by
    have part : ((tree.problems schema).filter (·.sharesSpan (tree.problems ⟨[]⟩))).Sublist
        (tree.problems schema) := List.filter_sublist
    rwa [filter_problems] at part
  kept := filter_problems
  added d member fresh := by
    rw [sharesSpan_problems_undeclared] at fresh
    rcases mem_mergeDiagnostics.1 member with structural | ⟨schematic, _⟩
    · rw [Diagnostic.sharesSpan_of_mem structural] at fresh
      cases fresh
    · exact code_of_schemaProblems schematic

theorem problems_undeclared_of_clean (clean : tree.problems schema = []) :
    tree.problems ⟨[]⟩ = [] := by
  have part := (@extends_problems schema tree).sublist
  rw [clean] at part
  exact List.sublist_nil.1 part

end Tree

namespace Query

variable {limits : Limits} {schema : Schema} {input : String} {tree : Tree} {query : Query}

theorem ofTree_of_clean (clean : tree.problems schema = []) :
    ofTree schema tree = .ok ⟨some (tree.expression schema)⟩ := by
  rw [ofTree, clean]

theorem ofTree_of_dirty (dirty : tree.problems schema ≠ []) :
    ofTree schema tree = .error ⟨tree.problems schema⟩ := by
  unfold ofTree
  split
  · next clean => exact (dirty clean).elim
  · rfl

/-- A tree that suits a schema also suits the empty one, as the same expression without types. -/
theorem ofTree_untyped (taken : ofTree schema tree = .ok query) :
    ofTree ⟨[]⟩ tree = .ok query.untyped := by
  by_cases clean : tree.problems schema = []
  · rw [ofTree_of_clean clean] at taken
    cases taken
    rw [ofTree_of_clean (Tree.problems_undeclared_of_clean clean), Tree.expression_undeclared]
    rfl
  · rw [ofTree_of_dirty clean] at taken
    cases taken

/-- A tree that has problems of its own has them with any schema. -/
theorem exists_extends_of_ofTree {error : QueryError} (refused : ofTree ⟨[]⟩ tree = .error error) :
    ∃ more, ofTree schema tree = .error more ∧ more.Extends error := by
  obtain ⟨rfl, dirty⟩ := ofTree_eq_error refused
  have still : tree.problems schema ≠ [] := mt Tree.problems_undeclared_of_clean dirty
  exact ⟨_, ofTree_of_dirty still, Tree.extends_problems⟩

/-- Declaring fields only narrows what can be asked. A query that is read with a schema is read without
one, as the same query but for the types of its fields; and what is wrong without a schema is wrong
with any, and told the same way. -/
theorem parse_narrows (limits : Limits) (schema : Schema) (input : String) :
    (∀ query, parse limits schema input = .ok query → parse limits ⟨[]⟩ input = .ok query.untyped) ∧
    ∀ error, parse limits ⟨[]⟩ input = .error error →
      ∃ more, parse limits schema input = .error more ∧ more.Extends error := by
  cases outcome limits input with
  | tooLong _ always | refused _ _ _ always =>
    rw [always, always]
    refine ⟨nofun, ?_⟩
    intro error refused
    cases refused
    exact ⟨_, rfl, .refl _⟩
  | blank always =>
    rw [always, always]
    refine ⟨?_, nofun⟩
    intro query taken
    cases taken
    rfl
  | read tree _ _ always =>
    rw [always, always]
    exact ⟨fun _ => ofTree_untyped, fun _ => exists_extends_of_ofTree⟩

/-- With a schema, a string has no range and a field is unknown; `or` is refused in any case. -/
theorem parse_narrows_reserved :
    let schema : Schema := ⟨[⟨"tag", .string⟩]⟩
    let error : QueryError := ⟨[(Problem.reservedFieldName "or" .or).report ⟨7, 2⟩]⟩
    (parse ⟨64, 8⟩ schema "tag:b" = .ok ⟨some (.atom (.equals ⟨"tag", some .string⟩ "b"))⟩ ∧
      parse ⟨64, 8⟩ ⟨[]⟩ "tag:b" = .ok ⟨some (.atom (.equals ⟨"tag", none⟩ "b"))⟩) ∧
    parse ⟨64, 8⟩ ⟨[]⟩ "tag:>b or:1 x:2" = .error error ∧
      ∃ more, parse ⟨64, 8⟩ schema "tag:>b or:1 x:2" = .error more ∧ more.Extends error := by
  intro schema error
  have typed : parse ⟨64, 8⟩ schema "tag:b" =
      .ok ⟨some (.atom (.equals ⟨"tag", some .string⟩ "b"))⟩ := by decide +kernel
  have refused : parse ⟨64, 8⟩ ⟨[]⟩ "tag:>b or:1 x:2" = .error error := by decide +kernel
  obtain ⟨widened, _⟩ := parse_narrows ⟨64, 8⟩ schema "tag:b"
  obtain ⟨_, narrowed⟩ := parse_narrows ⟨64, 8⟩ schema "tag:>b or:1 x:2"
  exact ⟨⟨typed, widened _ typed⟩, refused, narrowed _ refused⟩

end Query

end SearchBox
