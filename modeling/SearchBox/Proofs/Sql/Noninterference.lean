import SearchBox.Proofs.Sql.Compile
import SearchBox.Proofs.Sql.Operands

/-! The text of a statement tells nothing of the literals in the query. Two expressions that differ
only in literals compile to one text or fail alike; under full-text search the one thing that shows is
whether a beginning holds any word. -/

namespace SearchBox

namespace Clause

/-- The clauses differ in nothing but literals and quotes: they are of one kind, on fields of one
name, with one operator and equally many values. -/
def Alike : Clause Field String → Clause Field String → Prop
  | term _, term _ => True
  | wildcard _ _, wildcard _ _ => True
  | equals field _, equals field' _ => field.name = field'.name
  | range field operator _ upper, range field' operator' _ upper' =>
    field.name = field'.name ∧ operator = operator' ∧ upper.isSome = upper'.isSome
  | member field values, member field' values' =>
    field.name = field'.name ∧ values.length = values'.length
  | _, _ => False

/-- Of two beginnings both hold a word or neither does. -/
def WordedAlike : Clause Field String → Clause Field String → Prop
  | wildcard stem _, wildcard stem' _ =>
    (Sql.stemQuery? stem.toList).isSome = (Sql.stemQuery? stem'.toList).isSome
  | _, _ => True

end Clause

namespace Sql

/-- What a predicate is apart from its operands. -/
def Predicate.erase (predicate : Predicate String) : Predicate Unit :=
  predicate.map fun _ => ()

/-- The searches for two texts differ in nothing but the texts; for two beginnings this may need them
to be `worded` alike. -/
structure TextSearch.Blind (search : TextSearch) (worded : String → String → Prop) : Prop where
  term : ∀ column text text', (search.term column text).erase = (search.term column text').erase
  stem : ∀ column text text', worded text text' →
    (search.stem column text).erase = (search.stem column text').erase

/-- What must agree of two beginnings under a search type. -/
def SearchType.Worded (type : SearchType) (text text' : String) : Prop :=
  type = .tsvector → (stemQuery? text.toList).isSome = (stemQuery? text'.toList).isSome

theorem TextSearch.blind_tsvector (configuration : String) :
    (tsvector configuration).Blind (SearchType.Worded .tsvector) := by
  constructor
  · intro column text text'
    rfl
  · intro column text text' worded
    have same := worded rfl
    cases query : stemQuery? text.toList with
    | none =>
      cases query' : stemQuery? text'.toList with
      | none =>
        simp only [tsvector, query, query']
        rfl
      | some words' => simp [query, query'] at same
    | some words =>
      cases query' : stemQuery? text'.toList with
      | none => simp [query, query'] at same
      | some words' =>
        simp only [tsvector, query, query']
        rfl

theorem TextSearch.blind_of_ofOptions {options : Options} {search : TextSearch}
    (found : ofOptions options = .ok search) : search.Blind options.searchType.Worded := by
  unfold ofOptions at found
  split at found
  · cases found
    constructor <;> intros <;> rfl
  · next type =>
    split at found
    · cases found
      rw [type]
      exact blind_tsvector options.configuration
    · cases found
  · cases found
    constructor <;> intros <;> rfl

namespace Target

variable {target : Target}

theorem map_onAnyColumn {predicate predicate' : String → Predicate String}
    (same : ∀ column, (predicate column).erase = (predicate' column).erase) :
    (target.onAnyColumn predicate).map (List.map Predicate.erase) =
      (target.onAnyColumn predicate').map (List.map Predicate.erase) := by
  unfold onAnyColumn
  split
  · rfl
  · simp [Except.map, same]

theorem map_onField {field field' : Field}
    {predicate predicate' : (column : String) → FieldType → Predicate String}
    (name : field.name = field'.name)
    (same : ∀ column type, (predicate column type).erase = (predicate' column type).erase) :
    (target.onField field predicate).map (List.map Predicate.erase) =
      (target.onField field' predicate').map (List.map Predicate.erase) := by
  unfold onField
  rw [name]
  cases target.schema.lookup? field'.name with
  | none => rfl
  | some declaration => simp [Except.map, same]

theorem erase_rangePredicate (operator : RangeOperator) {value value' : String}
    {upper upper' : Option String} (same : upper.isSome = upper'.isSome) (column : String)
    (type : FieldType) : (rangePredicate operator value upper column type).erase =
      (rangePredicate operator value' upper' column type).erase := by
  cases operator with
  | bound comparison => rfl
  | between =>
    cases upper <;> cases upper'
    · rfl
    · cases same
    · cases same
    · rfl

/-- Clauses that are alike compile to predicates that are, or fail alike. -/
theorem map_alternatives {type : SearchType} (blind : target.search.Blind type.Worded)
    {clause clause' : Clause Field String} (alike : clause.Alike clause')
    (worded : type = .tsvector → clause.WordedAlike clause') :
    (target.alternatives clause).map (List.map Predicate.erase) =
      (target.alternatives clause').map (List.map Predicate.erase) := by
  cases clause with
  | term value =>
    cases clause' with
    | term value' => exact map_onAnyColumn fun column => blind.term column value value'
    | wildcard | equals | range | member => exact alike.elim
  | wildcard stem quoted =>
    cases clause' with
    | wildcard stem' quoted' => exact map_onAnyColumn fun column => blind.stem column stem stem' worded
    | term | equals | range | member => exact alike.elim
  | equals field value =>
    cases clause' with
    | equals field' value' =>
      rw [alternatives, alternatives]
      exact map_onField alike fun _ _ => rfl
    | term | wildcard | range | member => exact alike.elim
  | range field operator value upper =>
    cases clause' with
    | range field' operator' value' upper' =>
      obtain ⟨name, rfl, bounds⟩ := alike
      exact map_onField name (erase_rangePredicate operator bounds)
    | term | wildcard | equals | member => exact alike.elim
  | member field values =>
    cases clause' with
    | member field' values' =>
      obtain ⟨name, count⟩ := alike
      rw [alternatives, alternatives]
      refine map_onField name fun column type => ?_
      have units : values.map (fun _ => ()) = values'.map fun _ => () := by simp [count]
      exact congrArg (Predicate.member column type) units
    | term | wildcard | equals | range => exact alike.elim

end Target

/-- The text of a statement is made from the predicates without their operands. -/
theorem map_text_compile {options : Options} {schema : Schema} {columns : List String}
    {expression : Expression} {search : TextSearch}
    (found : TextSearch.ofOptions options = .ok search) :
    (compile options schema columns expression).map Statement.text =
      (expression.mapExcept fun clause =>
        ((Target.of schema columns search).alternatives clause).map (List.map Predicate.erase)).map
          fun condition => String.ofList (Condition.write (Condition.number 1 condition)) := by
  rw [compile_of_ofOptions found, ← Formula.map_mapExcept]
  cases expression.mapExcept (Target.of schema columns search).alternatives with
  | error failure => rfl
  | ok condition => exact congrArg Except.ok (Statement.text_ofCondition condition)

/-- Expressions that differ only in literals compile to the same text, or fail with the same error.
Under full-text search two beginnings must both hold a word or both hold none. -/
theorem map_text_compile_of_alike {options : Options} {schema : Schema} {columns : List String}
    {expression expression' : Expression}
    (alike : Formula.Forall₂ Clause.Alike expression expression')
    (worded : options.searchType = .tsvector →
      Formula.Forall₂ Clause.WordedAlike expression expression') :
    (compile options schema columns expression).map Statement.text =
      (compile options schema columns expression').map Statement.text := by
  cases found : TextSearch.ofOptions options with
  | error failure =>
    rw [compile_of_ofOptions_eq_error found, compile_of_ofOptions_eq_error found]
  | ok search =>
    have blind := TextSearch.blind_of_ofOptions found
    rw [map_text_compile found, map_text_compile found]
    congr 1
    by_cases type : options.searchType = .tsvector
    · refine (alike.and (worded type)).mapExcept_eq ?_
      rintro clause clause' ⟨here, words⟩
      exact Target.map_alternatives blind here fun _ => words
    · refine alike.mapExcept_eq fun clause clause' here => ?_
      exact Target.map_alternatives blind here fun same => (type same).elim

theorem map_text_compile_quotes : ∃ text,
    (compile ⟨.tsvector, "english"⟩ ⟨[⟨"price", .number⟩]⟩ ["title"]
      (.join .and (.atom (.wildcard "so" false))
        (.atom (.member ⟨"Price", some .number⟩ ["1", "2"])))).map Statement.text = .ok text ∧
    (compile ⟨.tsvector, "english"⟩ ⟨[⟨"price", .number⟩]⟩ ["title"]
      (.join .and (.atom (.wildcard "x'); DROP TABLE t; --" true))
        (.atom (.member ⟨"Price", none⟩ ["$7\"", ""])))).map Statement.text = .ok text := by
  let options : Options := ⟨.tsvector, "english"⟩
  let schema : Schema := ⟨[⟨"price", .number⟩]⟩
  let plain : Expression := .join .and (.atom (.wildcard "so" false))
    (.atom (.member ⟨"Price", some .number⟩ ["1", "2"]))
  let hostile : Expression := .join .and (.atom (.wildcard "x'); DROP TABLE t; --" true))
    (.atom (.member ⟨"Price", none⟩ ["$7\"", ""]))
  have alike : Formula.Forall₂ Clause.Alike plain hostile :=
    .join .and (.atom trivial) (.atom ⟨rfl, rfl⟩)
  have words : (stemQuery? "so".toList).isSome =
      (stemQuery? "x'); DROP TABLE t; --".toList).isSome := by decide +kernel
  have worded : Formula.Forall₂ Clause.WordedAlike plain hostile :=
    .join .and (.atom words) (.atom trivial)
  have same : (compile options schema ["title"] plain).map Statement.text =
      (compile options schema ["title"] hostile).map Statement.text :=
    map_text_compile_of_alike alike fun _ => worded
  have compiled : (compile options schema ["title"] plain).map Statement.text =
      .ok ("(to_tsvector('english', \"title\") @@ to_tsquery('english', $1) AND " ++
        "\"price\" IN ($2::numeric, $3::numeric))") := by decide +kernel
  exact ⟨_, compiled, same.symm.trans compiled⟩

end Sql

end SearchBox
