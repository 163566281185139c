import SearchBox.Proofs.Schema
import SearchBox.Proofs.Sql.Compile

/-! When a query does not compile, and what is said then. There is no statement exactly if there is
no expression, or no search can be made of the options, or a clause lacks a declaration or a column;
and of the clauses that lack something the leftmost is reported. -/

namespace SearchBox

/-- What a clause misses: its field is not declared, or it is to be found in any column and there is
none. -/
inductive Clause.Lacks (schema : Schema) (columns : List String) (clause : Clause Field String) :
    Sql.CompileError → Prop where
  | declaration {field : Field} (named : clause.field? = some field)
      (undeclared : ¬schema.Declares field.name) :
      Lacks schema columns clause (.unknownField field.name)
  | column (unscoped : clause.field? = none) (nowhere : columns = []) :
      Lacks schema columns clause .noSearchableColumns

namespace Clause

variable {schema : Schema} {columns : List String} {clause : Clause Field String}

theorem lacks_of_field? {field : Field} (named : clause.field? = some field)
    {failure : Sql.CompileError} : clause.Lacks schema columns failure ↔
      failure = .unknownField field.name ∧ ¬schema.Declares field.name := by
  constructor
  · intro lacks
    cases lacks with
    | declaration named' undeclared =>
      obtain rfl := Option.some.inj (named.symm.trans named')
      exact ⟨rfl, undeclared⟩
    | column unscoped => cases named.symm.trans unscoped
  · rintro ⟨rfl, undeclared⟩
    exact .declaration named undeclared

theorem lacks_of_unscoped (unscoped : clause.field? = none) {failure : Sql.CompileError} :
    clause.Lacks schema columns failure ↔ failure = .noSearchableColumns ∧ columns = [] := by
  constructor
  · intro lacks
    cases lacks with
    | declaration named => cases unscoped.symm.trans named
    | column _ nowhere => exact ⟨rfl, nowhere⟩
  · rintro ⟨rfl, nowhere⟩
    exact .column unscoped nowhere

theorem forall_not_lacks : (∀ failure, ¬clause.Lacks schema columns failure) ↔
    (∀ field, clause.field? = some field → schema.Declares field.name) ∧
      (clause.field? = none → columns ≠ []) := by
  cases named : clause.field? with
  | none => simp [lacks_of_unscoped named]
  | some field => simp [lacks_of_field? named]

/-- No clause lacks anything if every named field is declared and there is a column for the clauses
that need one. -/
theorem forall_atoms_not_lacks {expression : Expression} :
    (∀ clause ∈ expression.atoms, ∀ failure, ¬clause.Lacks schema columns failure) ↔
      (∀ clause ∈ expression.atoms, ∀ field, clause.field? = some field →
        schema.Declares field.name) ∧
      (columns ≠ [] ∨ ∀ clause ∈ expression.atoms, clause.field? ≠ none) := by
  simp only [forall_not_lacks, forall_and]
  apply and_congr_right'
  cases columns <;> simp

end Clause

namespace Sql

namespace Target

variable {schema : Schema} {columns : List String} {search : TextSearch}
  {clause : Clause Field String}

theorem columns_of_isEmpty :
    (of schema columns search).columns.isEmpty = columns.isEmpty := by
  cases columns with
  | nil => rfl
  | cons column columns => simp [of, List.eraseDups_cons]

theorem onAnyColumn_eq_error {predicate : String → Predicate String} {failure : CompileError} :
    (of schema columns search).onAnyColumn predicate = .error failure ↔
      failure = .noSearchableColumns ∧ columns = [] := by
  rw [onAnyColumn, columns_of_isEmpty]
  cases columns <;> simp [eq_comm]

theorem onField_of_lookup? {field : Field} {declaration : Declaration}
    (found : schema.lookup? field.name = some declaration)
    (predicate : (column : String) → FieldType → Predicate String) :
    (of schema columns search).onField field predicate =
      .ok [predicate (quoteIdentifier declaration.name) declaration.type] := by
  have here : (of schema columns search).schema.lookup? field.name = some declaration := found
  rw [onField, here]

theorem onField_eq_error {field : Field}
    {predicate : (column : String) → FieldType → Predicate String} {failure : CompileError} :
    (of schema columns search).onField field predicate = .error failure ↔
      failure = .unknownField field.name ∧ ¬schema.Declares field.name := by
  rw [← Schema.lookup?_eq_none]
  cases found : schema.lookup? field.name with
  | none =>
    have here : (of schema columns search).schema.lookup? field.name = none := found
    simp [onField, here, eq_comm]
  | some declaration => simp [onField_of_lookup? found]

theorem alternatives_eq_error_iff {failure : CompileError} :
    (of schema columns search).alternatives clause = .error failure ↔
      clause.Lacks schema columns failure := by
  cases named : clause.field? with
  | none =>
    rw [Clause.lacks_of_unscoped named]
    cases clause with
    | term | wildcard => exact onAnyColumn_eq_error
    | equals | range | member => cases named
  | some field =>
    rw [Clause.lacks_of_field? named]
    cases clause with
    | term | wildcard => cases named
    | equals | range | member =>
      cases named
      rw [alternatives]
      exact onField_eq_error

theorem exists_alternatives : (∃ predicates, (of schema columns search).alternatives clause =
    .ok predicates) ↔ ∀ failure, ¬clause.Lacks schema columns failure := by
  have failures (failure : CompileError) :=
    @alternatives_eq_error_iff schema columns search clause failure
  simp only [← failures]
  cases (of schema columns search).alternatives clause <;> simp

end Target

/-- Letters of the alphabet, digits and underscores, and at least one of them. -/
def NamesConfiguration (name : String) : Prop :=
  name ≠ "" ∧ ∀ c ∈ name.toList,
    'a' ≤ c ∧ c ≤ 'z' ∨ 'A' ≤ c ∧ c ≤ 'Z' ∨ '0' ≤ c ∧ c ≤ '9' ∨ c = '_'

theorem isConfigurationName_iff {name : String} :
    isConfigurationName name.toList = true ↔ NamesConfiguration name := by
  have filled : (!name.toList.isEmpty) = true ↔ name ≠ "" := by simp
  have letter (c : Char) : (c.isAlphanum || c == '_') = true ↔
      'a' ≤ c ∧ c ≤ 'z' ∨ 'A' ≤ c ∧ c ≤ 'Z' ∨ '0' ≤ c ∧ c ≤ '9' ∨ c = '_' := by
    delta Char.isAlphanum Char.isAlpha Char.isUpper Char.isLower Char.isDigit
    simp only [Bool.or_eq_true, Bool.and_eq_true, decide_eq_true_eq, beq_iff_eq]
    tauto
  rw [isConfigurationName, Bool.and_eq_true, filled, List.all_eq_true]
  simp only [letter, NamesConfiguration]

/-- A configuration is asked for only by a full-text search, and refused only if it is no name. -/
theorem TextSearch.ofOptions_eq_error {options : Options} {failure : CompileError} :
    ofOptions options = .error failure ↔ options.searchType = .tsvector ∧
      ¬NamesConfiguration options.configuration ∧
        failure = .invalidConfiguration options.configuration := by
  rw [← isConfigurationName_iff]
  unfold ofOptions
  split
  · next type => simp [type]
  · next type =>
    split
    · next valid => simp [valid]
    · next refused => simp [type, refused, eq_comm]
  · next type => simp [type]

theorem TextSearch.exists_ofOptions {options : Options} (configured : options.searchType = .tsvector →
    isConfigurationName options.configuration.toList = true) :
    ∃ search, ofOptions options = .ok search := by
  cases made : ofOptions options with
  | ok search => exact ⟨search, rfl⟩
  | error failure =>
    obtain ⟨type, refused, _⟩ := ofOptions_eq_error.1 made
    exact (refused (isConfigurationName_iff.1 (configured type))).elim

section Query

variable {options : Options} {schema : Schema} {columns : List String} {query : Query}
  {expression : Expression}

theorem compileQuery_of_expression? (some : query.expression? = some expression) :
    compileQuery options schema columns query = compile options schema columns expression := by
  rw [compileQuery, some]

theorem compile_ne_emptyQuery : compile options schema columns expression ≠ .error .emptyQuery := by
  intro failed
  cases made : TextSearch.ofOptions options with
  | error failure =>
    rw [compile_of_ofOptions_eq_error made] at failed
    cases failed
    cases (TextSearch.ofOptions_eq_error.1 made).2.2
  | ok search =>
    obtain ⟨clause, _, here⟩ := Formula.exists_of_mapExcept ((compile_eq_error made).1 failed)
    cases Target.alternatives_eq_error_iff.1 here

/-- A refused configuration is reported before any clause is looked at. -/
theorem compile_eq_invalidConfiguration {name : String} :
    compile options schema columns expression = .error (.invalidConfiguration name) ↔
      options.searchType = .tsvector ∧ ¬NamesConfiguration options.configuration ∧
        name = options.configuration := by
  cases made : TextSearch.ofOptions options with
  | error failure =>
    obtain ⟨type, refused, rfl⟩ := TextSearch.ofOptions_eq_error.1 made
    simp [compile_of_ofOptions_eq_error made, type, refused, eq_comm]
  | ok search =>
    constructor
    · intro failed
      obtain ⟨clause, _, here⟩ := Formula.exists_of_mapExcept ((compile_eq_error made).1 failed)
      cases Target.alternatives_eq_error_iff.1 here
    · rintro ⟨type, refused, rfl⟩
      cases made.symm.trans (TextSearch.ofOptions_eq_error.2 ⟨type, refused, rfl⟩)

variable {search : TextSearch} (made : TextSearch.ofOptions options = .ok search)
include made

theorem exists_compile : (∃ statement, compile options schema columns expression = .ok statement) ↔
    ∀ clause ∈ expression.atoms, ∀ failure, ¬clause.Lacks schema columns failure := by
  have mapped : (∃ statement, compile options schema columns expression = .ok statement) ↔
      ∃ condition, expression.mapExcept (Target.of schema columns search).alternatives =
        .ok condition := by
    rw [compile_of_ofOptions made]
    cases expression.mapExcept (Target.of schema columns search).alternatives <;> simp [Except.map]
  rw [mapped, Formula.exists_mapExcept_eq_ok]
  simp only [Target.exists_alternatives]

theorem compile_eq_error_iff {failure : CompileError} :
    compile options schema columns expression = .error failure ↔
      ∃ before clause after, expression.atoms = before ++ clause :: after ∧
        (∀ earlier ∈ before, ∀ other, ¬earlier.Lacks schema columns other) ∧
        clause.Lacks schema columns failure := by
  rw [compile_eq_error made, Formula.mapExcept_eq_error_iff]
  simp only [Target.exists_alternatives, Target.alternatives_eq_error_iff]

end Query

/-- Exactly an empty query is reported as empty. Otherwise exactly a full-text search under a name
that is none is reported as such; and otherwise there is a statement exactly if every named field is
declared and there is a column for every clause that names none, and else the leftmost clause that
lacks something is reported. -/
theorem compileQuery_failures (options : Options) (schema : Schema) (columns : List String)
    (query : Query) :
    (compileQuery options schema columns query = .error .emptyQuery ↔ query.expression? = none) ∧
    ∀ expression, query.expression? = some expression →
      (∀ name, compileQuery options schema columns query = .error (.invalidConfiguration name) ↔
        options.searchType = .tsvector ∧ ¬NamesConfiguration options.configuration ∧
          name = options.configuration) ∧
      ((options.searchType = .tsvector → NamesConfiguration options.configuration) →
        ((∃ statement, compileQuery options schema columns query = .ok statement) ↔
          (∀ clause ∈ expression.atoms, ∀ field, clause.field? = some field →
            schema.Declares field.name) ∧
          (columns ≠ [] ∨ ∀ clause ∈ expression.atoms, clause.field? ≠ none)) ∧
        ∀ failure, compileQuery options schema columns query = .error failure ↔
          ∃ before clause after, expression.atoms = before ++ clause :: after ∧
            (∀ earlier ∈ before, ∀ other, ¬earlier.Lacks schema columns other) ∧
            clause.Lacks schema columns failure) := by
  constructor
  · cases some : query.expression? with
    | none => simp [compileQuery, some]
    | some expression => simp [compileQuery_of_expression? some, compile_ne_emptyQuery]
  · intro expression some
    rw [compileQuery_of_expression? some]
    refine ⟨fun name => compile_eq_invalidConfiguration, ?_⟩
    intro configured
    obtain ⟨search, made⟩ := TextSearch.exists_ofOptions fun type =>
      isConfigurationName_iff.2 (configured type)
    refine ⟨?_, fun failure => compile_eq_error_iff made⟩
    rw [exists_compile made, Clause.forall_atoms_not_lacks]

theorem compileQuery_failures_leftmost :
    let query : Query := ⟨some (.join .and (.atom (.equals ⟨"TITLE", none⟩ "x"))
      (.join .or (.negation (.atom (.member ⟨"Made", none⟩ ["1", "2"]))) (.atom (.term "word"))))⟩
    compileQuery ⟨.tsvector, "english'"⟩ ⟨[⟨"Title", .string⟩]⟩ [] query =
        .error (.invalidConfiguration "english'") ∧
      compileQuery ⟨.tsvector, "english"⟩ ⟨[⟨"Title", .string⟩]⟩ [] query =
        .error (.unknownField "Made") ∧
      ∃ statement, compileQuery ⟨.tsvector, "english"⟩
        ⟨[⟨"Title", .string⟩, ⟨"MADE", .number⟩]⟩ ["title"] query = .ok statement := by
  intro query
  have english : NamesConfiguration "english" := isConfigurationName_iff.1 (by decide)
  have quoted : ¬NamesConfiguration "english'" := by
    rw [← isConfigurationName_iff]
    decide
  have title : Schema.Declares ⟨[⟨"Title", .string⟩]⟩ "TITLE" := by decide +kernel
  have made : ¬Schema.Declares ⟨[⟨"Title", .string⟩]⟩ "Made" := by decide +kernel
  obtain ⟨_, refused⟩ := compileQuery_failures ⟨.tsvector, "english'"⟩ ⟨[⟨"Title", .string⟩]⟩ [] query
  obtain ⟨_, lacking⟩ := compileQuery_failures ⟨.tsvector, "english"⟩ ⟨[⟨"Title", .string⟩]⟩ [] query
  obtain ⟨_, compiled⟩ := compileQuery_failures ⟨.tsvector, "english"⟩
    ⟨[⟨"Title", .string⟩, ⟨"MADE", .number⟩]⟩ ["title"] query
  refine ⟨((refused _ rfl).1 _).2 ⟨rfl, quoted, rfl⟩, ?_, ?_⟩
  · have leftmost := ((lacking _ rfl).2 fun _ => english).2
    refine (leftmost _).2 ⟨[_], .member ⟨"Made", none⟩ ["1", "2"], [_], rfl, ?_, ?_⟩
    · simpa [Clause.forall_not_lacks, Clause.field?] using title
    · exact (Clause.lacks_of_field? rfl).2 ⟨rfl, made⟩
  · refine ((compiled _ rfl).2 fun _ => english).1.2 ⟨?_, .inl (by simp)⟩
    have declared : Schema.Declares ⟨[⟨"Title", .string⟩, ⟨"MADE", .number⟩]⟩ "TITLE" ∧
        Schema.Declares ⟨[⟨"Title", .string⟩, ⟨"MADE", .number⟩]⟩ "Made" := by decide +kernel
    simpa [Formula.atoms, Clause.field?] using declared

end Sql

end SearchBox
