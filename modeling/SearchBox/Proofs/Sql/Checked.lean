import SearchBox.Proofs.Literals
import SearchBox.Proofs.Sql.Casts
import SearchBox.Proofs.Sql.Failures
import SearchBox.Proofs.Validity

/-! Queries that were checked against a schema. They compile as long as there is a column to search
for words without a field, every cast reads a value of its form, and only columns of an ordered type
are compared by order. -/

namespace SearchBox

namespace Sql

/-- A predicate compares values of its type, and by their order only in a column that is declared
with an ordered type. -/
structure Predicate.Fits (schema : Schema) (predicate : Predicate String) : Prop where
  accepted : ∀ type, predicate.type? = some type →
    ∀ value ∈ predicate.operands, type.accepts value.toList = true
  ordered : predicate.comparesOrder = true → ∃ declaration,
    predicate.column = quoteIdentifier declaration.name ∧
      schema.lookup? declaration.name = some declaration ∧ declaration.type.isOrdered = true

theorem Predicate.Searches.fits {predicate : Predicate String} {column operand : String}
    (searches : predicate.Searches column operand) (schema : Schema) : predicate.Fits schema := by
  have untyped := searches.untyped
  constructor
  · intro type typed
    rw [untyped] at typed
    cases typed
  · intro ordered
    cases predicate with
    | bound | between => cases untyped
    | pattern | fullText | ranked | equals | member => cases ordered

/-- A predicate on a declared column, with operands that its type accepts. -/
theorem Predicate.fits_of_lookup? {schema : Schema} {name : String} {declaration : Declaration}
    (found : schema.lookup? name = some declaration) {predicate : Predicate String}
    (column : predicate.column = quoteIdentifier declaration.name)
    (typed : predicate.type? = some declaration.type)
    (accepted : ∀ value ∈ predicate.operands, declaration.type.accepts value.toList = true)
    (ordered : predicate.comparesOrder = true → declaration.type.isOrdered = true) :
    predicate.Fits schema := by
  constructor
  · intro type same
    rw [typed] at same
    cases same
    exact accepted
  · intro compares
    exact ⟨declaration, column, Schema.lookup?_name found, ordered compares⟩

theorem Target.mem_operands_rangePredicate {operator : RangeOperator} {low : String}
    {upper : Option String} {column : String} {type : FieldType} {value : String}
    (member : value ∈ (rangePredicate operator low upper column type).operands) :
    value ∈ low :: upper.toList := by
  cases operator <;> cases upper <;> simp_all [rangePredicate, Predicate.operands]

namespace Target

variable {schema : Schema} {columns : List String} {search : TextSearch}
  {clause : Clause Field String}

/-- What a valid clause is compiled to fits the schema. -/
theorem fits_of_alternatives {type : SearchType} (encodes : search.Encodes type)
    (filled : schema.isEmpty = false) (valid : clause.Valid schema)
    {predicates : List (Predicate String)}
    (compiled : (of schema columns search).alternatives clause = .ok predicates) :
    ∀ predicate ∈ predicates, predicate.Fits schema := by
  cases clause with
  | term value =>
    exact forall_of_onAnyColumn compiled fun column => (encodes.term column value).fits schema
  | wildcard stem quoted =>
    exact forall_of_onAnyColumn compiled fun column => (encodes.stem column stem).fits schema
  | equals field value =>
    obtain ⟨declaration, found, suits⟩ := valid.typed filled field rfl
    rw [alternatives, onField_of_lookup? found] at compiled
    cases compiled
    refine List.forall_mem_singleton.2 (Predicate.fits_of_lookup? found rfl rfl ?_ ?_)
    · exact List.forall_mem_singleton.2 suits
    · intro ordered
      cases ordered
  | range field operator value upper =>
    obtain ⟨declaration, found, ordered, suits⟩ := valid.typed filled field rfl
    rw [alternatives, onField_of_lookup? found] at compiled
    cases compiled
    have accepted (operand) (member : operand ∈ (rangePredicate operator value upper
        (quoteIdentifier declaration.name) declaration.type).operands) :
        declaration.type.accepts operand.toList = true :=
      suits operand (mem_operands_rangePredicate member)
    refine List.forall_mem_singleton.2
      (Predicate.fits_of_lookup? found ?_ ?_ accepted fun _ => ordered)
    · cases operator <;> cases upper <;> rfl
    · cases operator <;> cases upper <;> rfl
  | member field values =>
    obtain ⟨declaration, found, suits⟩ := valid.typed filled field rfl
    rw [alternatives, onField_of_lookup? found] at compiled
    cases compiled
    refine List.forall_mem_singleton.2 (Predicate.fits_of_lookup? found rfl rfl suits ?_)
    intro ordered
    cases ordered

end Target

/-- Every placeholder with a cast is bound to a value of the form that the cast reads. -/
def CastsHold (tokens : List SqlToken) (values : List String) : Prop :=
  ∀ before number word after,
    tokens = before ++ .placeholder number :: .cast :: .word word :: after →
    0 < number ∧ ∃ value, values[number - 1]? = some value ∧
      (word = "numeric".toList ∧ IsDecimal value.toList ∨
        word = "date".toList ∧ IsCalendarDate value.toList ∨
        word = "boolean".toList ∧ IsTruthValue value.toList)

/-- Every sign that compares by order stands right behind the whole name of a column that is
declared with an ordered type. -/
def OrdersHold (schema : Schema) (tokens : List SqlToken) : Prop :=
  ∀ before sign after, tokens = before ++ sign :: after → sign.comparesOrder = true →
    ∃ front declaration, before = front ++ Scan.nameTokens [] declaration.name.toList ∧
      front.getLast? ≠ some (.symbol '.') ∧ schema.lookup? declaration.name = some declaration ∧
      (declaration.type = .number ∨ declaration.type = .date)

theorem form_of_cast {type : FieldType} {word : List Char} (cast : castTokens type = [.cast, .word word])
    {text : List Char} (accepted : type.accepts text = true) :
    word = "numeric".toList ∧ IsDecimal text ∨ word = "date".toList ∧ IsCalendarDate text ∨
      word = "boolean".toList ∧ IsTruthValue text := by
  cases type with
  | string => cases cast
  | number =>
    cases cast
    exact .inl ⟨rfl, isNumber_iff.1 accepted⟩
  | date =>
    cases cast
    exact .inr (.inl ⟨rfl, isCalendarDate_of_isCalendarDate accepted⟩)
  | boolean =>
    cases cast
    simp only [FieldType.accepts, sameIgnoringAsciiCase, Bool.or_eq_true, beq_iff_eq] at accepted
    exact .inr (.inr ⟨rfl, accepted⟩)

section Statements

variable {schema : Schema} {condition : Condition String} (readable : condition.Readable)
  (fits : ∀ alternatives ∈ condition.atoms, ∀ predicate ∈ alternatives, predicate.Fits schema)
include readable fits

theorem castsHold_ofCondition :
    CastsHold (condition.number 1).tokens (Statement.ofCondition condition).values := by
  intro before number word after same
  obtain ⟨alternatives, here, predicate, found, type, value, typed, cast, member, positive, bound⟩ :=
    Condition.cast_of_tokens readable same
  have accepted := (fits alternatives here predicate found).accepted type typed value member
  exact ⟨positive, value, bound, form_of_cast cast accepted⟩

theorem ordersHold_ofCondition : OrdersHold schema (condition.number 1).tokens := by
  intro before sign after same ordered
  obtain ⟨alternatives, here, predicate, found, kind, front, rfl, whole⟩ :=
    Condition.order_of_tokens readable ordered same
  obtain ⟨declaration, column, known, type⟩ := (fits alternatives here predicate found).ordered kind
  refine ⟨front, declaration, ?_, whole, known, ?_⟩
  · rw [column, columnTokens, Scan.scan?_quoteIdentifier, Option.getD_some]
  · cases same : declaration.type <;> simp_all [FieldType.isOrdered]

end Statements

/-- A valid clause lacks at most a column. -/
theorem lacks_of_valid {schema : Schema} {columns : List String} {clause : Clause Field String}
    (filled : schema.isEmpty = false) (valid : clause.Valid schema) {failure : CompileError} :
    clause.Lacks schema columns failure ↔
      failure = .noSearchableColumns ∧ columns = [] ∧ clause.field? = none := by
  cases named : clause.field? with
  | none => simp [Clause.lacks_of_unscoped named]
  | some field =>
    obtain ⟨declaration, found, _⟩ := valid.typed filled field named
    have declared : schema.Declares field.name := Schema.exists_lookup?.1 ⟨declaration, found⟩
    simp [Clause.lacks_of_field? named, declared]

/-- An expression of valid clauses fails to compile only without a column to search, and exactly if
one of its clauses needs one. -/
theorem mapExcept_eq_error_of_valid {schema : Schema} {columns : List String} {search : TextSearch}
    {expression : Expression} (filled : schema.isEmpty = false)
    (valid : ∀ clause ∈ expression.atoms, clause.Valid schema) {failure : CompileError} :
    expression.mapExcept (Target.of schema columns search).alternatives = .error failure ↔
      failure = .noSearchableColumns ∧ columns = [] ∧
        ∃ clause ∈ expression.atoms, clause.field? = none := by
  have only (other : CompileError) (failed : expression.mapExcept
      (Target.of schema columns search).alternatives = .error other) :
      other = .noSearchableColumns ∧ columns = [] ∧
        ∃ clause ∈ expression.atoms, clause.field? = none := by
    obtain ⟨clause, member, here⟩ := Formula.exists_of_mapExcept failed
    obtain ⟨rfl, rfl, unscoped⟩ :=
      (lacks_of_valid filled (valid clause member)).1 (Target.alternatives_eq_error_iff.1 here)
    exact ⟨rfl, rfl, clause, member, unscoped⟩
  constructor
  · exact only failure
  · rintro ⟨rfl, rfl, clause, member, unscoped⟩
    cases mapped : expression.mapExcept (Target.of schema [] search).alternatives with
    | error other => rw [(only other mapped).1]
    | ok condition =>
      have here : (Target.of schema [] search).alternatives clause = .error .noSearchableColumns :=
        Target.alternatives_eq_error_iff.2 (.column unscoped rfl)
      exact (Formula.mapExcept_ne_ok member here condition mapped).elim

end Sql

/-- A query that was read against a schema compiles, unless it looks for a word without a field and
there is no column to search. In what it compiles to, casts read values of their form, and only
columns of numbers and dates are compared by order. -/
theorem Query.compile_of_parse {limits : Limits} {schema : Schema} {input : String}
    {expression : Expression} (parsed : parse limits schema input = .ok ⟨some expression⟩)
    (filled : schema.isEmpty = false) {options : Sql.Options}
    (configured : options.searchType = .tsvector →
      Sql.isConfigurationName options.configuration.toList = true) (columns : List String) :
    (∀ failure, Sql.compile options schema columns expression = .error failure ↔
      failure = .noSearchableColumns ∧ columns = [] ∧
        ∃ clause ∈ expression.atoms, clause.field? = none) ∧
    ∀ statement, Sql.compile options schema columns expression = .ok statement →
      ∃ tokens, Sql.scan? statement.text = some tokens ∧
        Sql.CastsHold tokens statement.values ∧ Sql.OrdersHold schema tokens := by
  obtain ⟨_, _, _, _, valid⟩ := parse_eq_ok.1 parsed
  obtain ⟨search, found⟩ := Sql.TextSearch.exists_ofOptions configured
  constructor
  · intro failure
    rw [Sql.compile_eq_error found]
    exact Sql.mapExcept_eq_error_of_valid filled valid
  · intro statement compiled
    obtain ⟨search, condition, found, mapped, rfl⟩ := Sql.compile_eq_ok.1 compiled
    have encodes := Sql.TextSearch.encodes_of_ofOptions found
    have readable := Sql.readable_of_mapExcept encodes mapped
    have fits := Formula.forall_of_forall₂ (Formula.forall₂_of_mapExcept mapped)
      fun clause member _ => Sql.Target.fits_of_alternatives encodes filled (valid clause member)
    exact ⟨_, Sql.scan?_ofCondition readable, Sql.castsHold_ofCondition readable fits,
      Sql.ordersHold_ofCondition readable fits⟩

theorem Query.compile_of_parse_mixed : ∃ expression statement,
    parse .default ⟨[⟨"Price", .string⟩, ⟨"price", .number⟩, ⟨"made", .date⟩, ⟨"sold", .boolean⟩]⟩
        "PRICE:\"+2\"..10.5 NOT sold:IN(TRUE, \"false\") OR made:>=2024-02-29 so*" =
      .ok ⟨some expression⟩ ∧
    Sql.compile ⟨.tsvector, "english"⟩
        ⟨[⟨"Price", .string⟩, ⟨"price", .number⟩, ⟨"made", .date⟩, ⟨"sold", .boolean⟩]⟩ []
        expression = .error .noSearchableColumns ∧
    Sql.compile ⟨.tsvector, "english"⟩
        ⟨[⟨"Price", .string⟩, ⟨"price", .number⟩, ⟨"made", .date⟩, ⟨"sold", .boolean⟩]⟩ ["title"]
        expression = .ok statement ∧
    ∃ tokens, Sql.scan? statement.text = some tokens ∧ Sql.CastsHold tokens statement.values ∧
      Sql.OrdersHold
        ⟨[⟨"Price", .string⟩, ⟨"price", .number⟩, ⟨"made", .date⟩, ⟨"sold", .boolean⟩]⟩ tokens := by
  let schema : Schema :=
    ⟨[⟨"Price", .string⟩, ⟨"price", .number⟩, ⟨"made", .date⟩, ⟨"sold", .boolean⟩]⟩
  let options : Sql.Options := ⟨.tsvector, "english"⟩
  let expression : Expression := .join .or
    (.join .and (.atom (.range ⟨"PRICE", some .number⟩ .between "+2" (some "10.5")))
      (.negation (.atom (.member ⟨"sold", some .boolean⟩ ["TRUE", "false"]))))
    (.join .and (.atom (.range ⟨"made", some .date⟩ (.bound .atLeast) "2024-02-29" none))
      (.atom (.wildcard "so" false)))
  have parsed : parse .default schema
      "PRICE:\"+2\"..10.5 NOT sold:IN(TRUE, \"false\") OR made:>=2024-02-29 so*" =
        .ok ⟨some expression⟩ := by decide +kernel
  have configured : options.searchType = .tsvector →
      Sql.isConfigurationName options.configuration.toList = true := fun _ => by decide +kernel
  have unscoped : ∃ clause ∈ expression.atoms, clause.field? = none :=
    ⟨.wildcard "so" false, by simp [expression, Formula.atoms], rfl⟩
  obtain ⟨failures, _⟩ := compile_of_parse parsed rfl configured []
  obtain ⟨_, statements⟩ := compile_of_parse parsed rfl configured ["title"]
  have compiled : Sql.compile options schema ["title"] expression = .ok
      ⟨"((\"price\" BETWEEN $1::numeric AND $2::numeric AND NOT (\"sold\" IN ($3::boolean, " ++
        "$4::boolean))) OR (\"made\" >= $5::date AND " ++
        "to_tsvector('english', \"title\") @@ to_tsquery('english', $6)))",
        ["+2", "10.5", "TRUE", "false", "2024-02-29", "so:*"]⟩ := by decide +kernel
  exact ⟨expression, _, parsed, (failures _).2 ⟨rfl, rfl, unscoped⟩, compiled,
    statements _ compiled⟩

end SearchBox
