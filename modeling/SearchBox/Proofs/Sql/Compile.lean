import SearchBox.Proofs.Formula
import SearchBox.Proofs.Sql.Placeholders

/-! What the compiler makes of an expression. Each clause becomes predicates on quoted columns, and
the values bound to the placeholders are those of the clauses from left to right. -/

namespace SearchBox

namespace Sql.SearchType

/-- How a word is encoded for a search. -/
def termOperand : SearchType → String → String
  | .ilike, text => String.ofList ('%' :: (escapePattern text.toList ++ ['%']))
  | .tsvector, text => text
  | .paradedb, text => String.ofList (plainQuery text.toList)

/-- How the beginning of a word is encoded. -/
def stemOperand : SearchType → String → String
  | .ilike, text => String.ofList (escapePattern text.toList ++ ['%'])
  | .tsvector, text => ((stemQuery? text.toList).map String.ofList).getD text
  | .paradedb, text => String.ofList (plainQuery text.toList ++ ['*'])

end Sql.SearchType

/-- The values that are bound for a clause, where a clause without a field is matched in each of the
distinct columns. -/
def Clause.boundValues (search : Sql.SearchType) (columns : List String) :
    Clause Field String → List String
  | .term value => List.replicate columns.eraseDups.length (search.termOperand value)
  | .wildcard stem _ => List.replicate columns.eraseDups.length (search.stemOperand stem)
  | .equals _ value => [value]
  | .range _ .between low (some high) => [low, high]
  | .range _ _ low _ => [low]
  | .member _ values => values

namespace Sql

theorem eraseDups_map {α β : Type} [BEq α] [LawfulBEq α] [BEq β] [LawfulBEq β] {f : α → β}
    (injective : ∀ a b, f a = f b → a = b) (list : List α) :
    (list.map f).eraseDups = list.eraseDups.map f := by
  induction size : list.length using Nat.strongRecOn generalizing list with
  | ind size ih =>
    cases list with
    | nil => rfl
    | cons a list =>
      have same (b : α) : (f b == f a) = (b == a) := by
        rw [Bool.eq_iff_iff, beq_iff_eq, beq_iff_eq]
        exact ⟨injective b a, congrArg f⟩
      have filtered : (list.map f).filter (fun b => !b == f a) =
          (list.filter fun b => !b == a).map f := by
        rw [List.filter_map]
        simp [Function.comp_def, same]
      have shorter := List.length_filter_le (fun b => !b == a) list
      rw [List.map_cons, List.eraseDups_cons, List.eraseDups_cons, filtered,
        ih _ (by rw [← size, List.length_cons]; omega) _ rfl, List.map_cons]

/-- The predicate looks for one text in a column. -/
structure Predicate.Searches (predicate : Predicate String) (column operand : String) : Prop where
  column_eq : predicate.column = column
  operands_eq : predicate.operands = [operand]
  untyped : predicate.type? = none
  configured : ∀ configuration, predicate.configuration? = some configuration →
    '\'' ∉ configuration.toList

/-- A search looks in the column it is given for the one operand of its type. -/
structure TextSearch.Encodes (search : TextSearch) (type : SearchType) : Prop where
  term : ∀ column text, (search.term column text).Searches column (type.termOperand text)
  stem : ∀ column text, (search.stem column text).Searches column (type.stemOperand text)

theorem Predicate.searches_fullText {column configuration : String}
    (noQuote : '\'' ∉ configuration.toList) (reading : QueryReading) (operand : String) :
    (Predicate.fullText column configuration reading operand).Searches column operand := by
  refine ⟨rfl, rfl, rfl, ?_⟩
  intro written same
  rwa [← Option.some.inj same]

theorem TextSearch.encodes_ilike : ilike.Encodes .ilike := by
  constructor <;> exact fun _ _ => ⟨rfl, rfl, rfl, nofun⟩

theorem TextSearch.encodes_paradedb : paradedb.Encodes .paradedb := by
  constructor <;> exact fun _ _ => ⟨rfl, rfl, rfl, nofun⟩

/-- A beginning without any word is looked for as plain words. -/
theorem TextSearch.encodes_tsvector {configuration : String}
    (noQuote : '\'' ∉ configuration.toList) : (tsvector configuration).Encodes .tsvector := by
  constructor
  · intro column text
    exact Predicate.searches_fullText noQuote .plainWords text
  · intro column text
    cases query : stemQuery? text.toList with
    | none =>
      simp only [tsvector, SearchType.stemOperand, query]
      exact Predicate.searches_fullText noQuote .plainWords text
    | some words =>
      simp only [tsvector, SearchType.stemOperand, query]
      exact Predicate.searches_fullText noQuote .operators (String.ofList words)

theorem TextSearch.encodes_of_ofOptions {options : Options} {search : TextSearch}
    (found : ofOptions options = .ok search) : search.Encodes options.searchType := by
  unfold ofOptions at found
  split at found
  · next type =>
    cases found
    rw [type]
    exact encodes_ilike
  · next type =>
    split at found
    · next valid =>
      cases found
      rw [type]
      exact encodes_tsvector (quote_notMem_of_isConfigurationName valid)
    · cases found
  · next type =>
    cases found
    rw [type]
    exact encodes_paradedb

/-- The target that clauses are compiled against. -/
def Target.of (schema : Schema) (columns : List String) (search : TextSearch) : Target :=
  ⟨schema, (columns.map quoteIdentifier).eraseDups, search⟩

section Compile

variable {options : Options} {schema : Schema} {columns : List String} {expression : Expression}
  {search : TextSearch}

theorem compile_of_ofOptions (found : TextSearch.ofOptions options = .ok search) :
    compile options schema columns expression =
      (expression.mapExcept (Target.of schema columns search).alternatives).map
        Statement.ofCondition := by
  unfold compile Target.of
  rw [found]
  rfl

theorem compile_of_ofOptions_eq_error {failure : CompileError}
    (failed : TextSearch.ofOptions options = .error failure) :
    compile options schema columns expression = .error failure := by
  unfold compile
  rw [failed]
  rfl

theorem compile_eq_ok {statement : Statement} :
    compile options schema columns expression = .ok statement ↔
      ∃ search condition, TextSearch.ofOptions options = .ok search ∧
        expression.mapExcept (Target.of schema columns search).alternatives = .ok condition ∧
        Statement.ofCondition condition = statement := by
  cases found : TextSearch.ofOptions options with
  | error failure => simp [compile_of_ofOptions_eq_error found]
  | ok search =>
    rw [compile_of_ofOptions found]
    cases mapped : expression.mapExcept (Target.of schema columns search).alternatives <;>
      simp [Except.map, mapped]

theorem compile_eq_error (found : TextSearch.ofOptions options = .ok search)
    {failure : CompileError} : compile options schema columns expression = .error failure ↔
      expression.mapExcept (Target.of schema columns search).alternatives = .error failure := by
  rw [compile_of_ofOptions found]
  cases expression.mapExcept (Target.of schema columns search).alternatives <;> simp [Except.map]

end Compile

namespace Target

variable {schema : Schema} {columns : List String} {search : TextSearch} {type : SearchType}

theorem eq_of_onAnyColumn {predicate : String → Predicate String}
    {predicates : List (Predicate String)}
    (compiled : (of schema columns search).onAnyColumn predicate = .ok predicates) :
    predicates = columns.eraseDups.map fun name => predicate (quoteIdentifier name) := by
  have distinct : (of schema columns search).columns = columns.eraseDups.map quoteIdentifier :=
    eraseDups_map (fun _ _ => Scan.quoteIdentifier_injective) columns
  unfold onAnyColumn at compiled
  split at compiled
  · cases compiled
  · cases compiled
    rw [distinct, List.map_map]
    rfl

theorem forall_of_onAnyColumn {holds : Predicate String → Prop}
    {predicate : String → Predicate String} {predicates : List (Predicate String)}
    (compiled : (of schema columns search).onAnyColumn predicate = .ok predicates)
    (each : ∀ column, holds (predicate column)) : ∀ made ∈ predicates, holds made := by
  obtain rfl := eq_of_onAnyColumn compiled
  intro made member
  obtain ⟨name, _, rfl⟩ := List.mem_map.1 member
  exact each (quoteIdentifier name)

theorem forall_of_onField {holds : Predicate String → Prop} {field : Field}
    {predicate : (column : String) → FieldType → Predicate String}
    {predicates : List (Predicate String)}
    (compiled : (of schema columns search).onField field predicate = .ok predicates)
    (each : ∀ column type, holds (predicate column type)) : ∀ made ∈ predicates, holds made := by
  unfold onField at compiled
  split at compiled
  · cases compiled
  · cases compiled
    exact List.forall_mem_singleton.2 (each _ _)

theorem onAnyColumn_of {predicate : String → Predicate String} {operand : String}
    (each : ∀ column, (predicate column).Searches column operand)
    {predicates : List (Predicate String)}
    (compiled : (of schema columns search).onAnyColumn predicate = .ok predicates) :
    (∀ predicate ∈ predicates, predicate.Readable) ∧
      predicates.flatMap Predicate.operands = List.replicate columns.eraseDups.length operand := by
  obtain rfl := eq_of_onAnyColumn compiled
  constructor
  · intro made member
    obtain ⟨name, _, rfl⟩ := List.mem_map.1 member
    have searches := each (quoteIdentifier name)
    exact ⟨⟨name, searches.column_eq⟩, searches.configured⟩
  · rw [List.flatMap_map, List.eq_replicate_iff]
    simp [(each _).operands_eq]

theorem onField_of {field : Field} {predicate : (column : String) → FieldType → Predicate String}
    {predicates : List (Predicate String)}
    (compiled : (of schema columns search).onField field predicate = .ok predicates)
    {operands : List String}
    (each : ∀ column type, (predicate column type).column = column ∧
      (predicate column type).operands = operands ∧
      (predicate column type).configuration? = none) :
    (∀ predicate ∈ predicates, predicate.Readable) ∧
      predicates.flatMap Predicate.operands = operands := by
  unfold onField at compiled
  split at compiled
  · cases compiled
  · next declaration _ =>
    cases compiled
    obtain ⟨same, bound, plain⟩ := each (quoteIdentifier declaration.name) declaration.type
    simp only [List.mem_singleton, forall_eq, List.flatMap_cons, List.flatMap_nil, List.append_nil]
    exact ⟨⟨⟨declaration.name, same⟩, by simp [plain]⟩, bound⟩

/-- What a clause is compiled to can be read, and binds the values of the clause. -/
theorem alternatives_of (encodes : search.Encodes type) {clause : Clause Field String}
    {predicates : List (Predicate String)}
    (compiled : (of schema columns search).alternatives clause = .ok predicates) :
    (∀ predicate ∈ predicates, predicate.Readable) ∧
      predicates.flatMap Predicate.operands = clause.boundValues type columns := by
  cases clause with
  | term value => exact onAnyColumn_of (fun column => encodes.term column value) compiled
  | wildcard stem quoted => exact onAnyColumn_of (fun column => encodes.stem column stem) compiled
  | equals field value =>
    rw [alternatives] at compiled
    exact onField_of compiled fun _ _ => ⟨rfl, rfl, rfl⟩
  | member field values =>
    rw [alternatives] at compiled
    exact onField_of compiled fun _ _ => ⟨rfl, rfl, rfl⟩
  | range field operator value upper =>
    cases operator with
    | bound comparison => exact onField_of compiled fun _ _ => ⟨rfl, rfl, rfl⟩
    | between => cases upper <;> exact onField_of compiled fun _ _ => ⟨rfl, rfl, rfl⟩

end Target

theorem flatMap_of_forall₂ {α β γ : Type} {related : α → β → Prop} {f : α → List γ} {g : β → List γ}
    {as : List α} {bs : List β} (pairs : List.Forall₂ related as bs)
    (each : ∀ a b, related a b → g b = f a) : bs.flatMap g = as.flatMap f := by
  induction pairs with
  | nil => rfl
  | cons here _ ih => rw [List.flatMap_cons, List.flatMap_cons, each _ _ here, ih]

theorem readable_of_mapExcept {schema : Schema} {columns : List String} {search : TextSearch}
    {type : SearchType} (encodes : search.Encodes type) {expression : Expression}
    {condition : Condition String}
    (mapped : expression.mapExcept (Target.of schema columns search).alternatives = .ok condition) :
    condition.Readable := by
  refine Formula.forall_of_forall₂ (Formula.forall₂_of_mapExcept mapped) ?_
  intro clause _ alternatives made
  exact (Target.alternatives_of encodes made).1

/-- In a compiled statement every quote is closed, the placeholders are numbered from one in the
order of the text, and there is one for each value; and the values are those of the clauses from
left to right. -/
theorem compile_placeholders {options : Options} {schema : Schema} {columns : List String}
    {expression : Expression} {statement : Statement}
    (compiled : compile options schema columns expression = .ok statement) :
    (∃ tokens, scan? statement.text = some tokens ∧
      placeholders tokens = List.range' 1 statement.values.length) ∧
      statement.values = expression.atoms.flatMap (Clause.boundValues options.searchType columns) := by
  obtain ⟨search, condition, found, mapped, rfl⟩ := compile_eq_ok.1 compiled
  have encodes := TextSearch.encodes_of_ofOptions found
  have readable := readable_of_mapExcept encodes mapped
  refine ⟨⟨_, scan?_ofCondition readable, placeholders_ofCondition readable⟩, ?_⟩
  apply flatMap_of_forall₂ (Formula.forall₂_of_mapExcept mapped)
  intro clause alternatives made
  exact (Target.alternatives_of encodes made).2

theorem compile_placeholders_dollar : ∃ statement,
    compile ⟨.tsvector, "english"⟩ ⟨[⟨"price $1", .number⟩]⟩ ["a\"$1", "b", "a\"$1"]
        (.join .or (.atom (.wildcard "so" false))
          (.negation (.atom (.range ⟨"PRICE $1", none⟩ .between "1" (some "2"))))) = .ok statement ∧
      statement.values = ["so:*", "so:*", "1", "2"] ∧
      ∃ tokens, scan? statement.text = some tokens ∧ placeholders tokens = [1, 2, 3, 4] := by
  have compiled : compile ⟨.tsvector, "english"⟩ ⟨[⟨"price $1", .number⟩]⟩ ["a\"$1", "b", "a\"$1"]
      (.join .or (.atom (.wildcard "so" false))
        (.negation (.atom (.range ⟨"PRICE $1", none⟩ .between "1" (some "2"))))) =
      .ok ⟨"((to_tsvector('english', \"a\"\"$1\") @@ to_tsquery('english', $1) OR " ++
        "to_tsvector('english', \"b\") @@ to_tsquery('english', $2)) OR " ++
        "NOT (\"price $1\" BETWEEN $3::numeric AND $4::numeric))", ["so:*", "so:*", "1", "2"]⟩ := by
    decide +kernel
  obtain ⟨scanned, values⟩ := compile_placeholders compiled
  exact ⟨_, compiled, values.trans (by decide +kernel), scanned⟩

end Sql

end SearchBox
