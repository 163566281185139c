import SearchBox.Proofs.Sql.Failures

/-! What changes with the way to search. Two ways compile an expression to one template, with a place
for every word and every column it is to be found in; they differ in what they write into these places
and in the values they bind there. -/

namespace SearchBox

/-- What a clause without a field looks for. -/
inductive Sought where
  | word (text : String)
  | beginning (text : String)

/-- What a value is bound for: a word in one column, or the value itself, which a clause on a field
gives. -/
inductive Slot where
  | searched (sought : Sought) (column : String)
  | given (value : String)

def Slot.isSearched : Slot → Bool
  | searched _ _ => true
  | given _ => false

/-- What the values of a clause are bound for, where a clause without a field is matched in each of
the distinct columns. -/
def Clause.slots (columns : List String) : Clause Field String → List Slot
  | .term value => columns.eraseDups.map (.searched (.word value))
  | .wildcard stem _ => columns.eraseDups.map (.searched (.beginning stem))
  | .equals _ value => [.given value]
  | .range _ .between low (some high) => [.given low, .given high]
  | .range _ _ low _ => [.given low]
  | .member _ values => values.map .given

def Expression.slots (expression : Expression) (columns : List String) : List Slot :=
  expression.atoms.flatMap (Clause.slots columns)

namespace Sql

/-- How something is looked for in a column, given by its SQL text. -/
def TextSearch.predicate (search : TextSearch) (column : String) : Sought → Predicate String
  | .word text => search.term column text
  | .beginning text => search.stem column text

/-- A sign of a template: a character, or the place of a search with the number of its placeholder. -/
inductive Glyph where
  | char (c : Char)
  | search (sought : Sought) (column : String) (number : Nat)

namespace Glyph

/-- What a way to search writes for the sign. -/
def write (search : TextSearch) : Glyph → List Char
  | .char c => [c]
  | .search sought column number =>
    ((search.predicate (quoteIdentifier column) sought).number number).write

/-- The search that the sign is the place of, with the number of its placeholder. -/
def place? : Glyph → Option (Slot × Nat)
  | .char _ => none
  | .search sought column number => some (.searched sought column, number)

end Glyph

/-- The searches among slots that are numbered from `first` on. -/
def searchPlaces (first : Nat) (slots : List Slot) : List (Slot × Nat) :=
  (slots.zipIdx first).filter fun place => place.1.isSearched

/-- The statement is the template with the searches written out, and has a value for every slot: for
a search the one operand of it. -/
structure Statement.Follows (search : TextSearch) (template : List Glyph) (slots : List Slot)
    (statement : Statement) : Prop where
  text : statement.text.toList = template.flatMap (Glyph.write search)
  length : statement.values.length = slots.length
  given : ∀ (index : Nat) value, slots[index]? = some (.given value) →
    statement.values[index]? = some value
  searched : ∀ (index : Nat) sought column, slots[index]? = some (.searched sought column) →
    ∃ value, statement.values[index]? = some value ∧
      (search.predicate (quoteIdentifier column) sought).operands = [value]

/-! The values. -/

/-- How what is sought is encoded for a search. -/
def SearchType.operand (type : SearchType) : Sought → String
  | .word text => type.termOperand text
  | .beginning text => type.stemOperand text

def SearchType.value (type : SearchType) : Slot → String
  | .searched sought _ => type.operand sought
  | .given value => value

theorem TextSearch.Encodes.predicate {search : TextSearch} {type : SearchType}
    (encodes : search.Encodes type) (column : String) (sought : Sought) :
    (search.predicate column sought).Searches column (type.operand sought) := by
  cases sought with
  | word text => exact encodes.term column text
  | beginning text => exact encodes.stem column text

theorem boundValues_eq (type : SearchType) (columns : List String) (clause : Clause Field String) :
    clause.boundValues type columns = (clause.slots columns).map type.value := by
  cases clause with
  | term | wildcard =>
    rw [Clause.slots, List.map_map]
    exact List.map_const'.symm
  | equals field value => rfl
  | range field operator value upper =>
    cases operator with
    | bound comparison => rfl
    | between => cases upper <;> rfl
  | member field values => simp [Clause.boundValues, Clause.slots, Function.comp_def, SearchType.value]

section Operands

variable {schema : Schema} {columns : List String} {search : TextSearch} {type : SearchType}
  {expression : Expression} {condition : Condition String} (encodes : search.Encodes type)
  (mapped : expression.mapExcept (Target.of schema columns search).alternatives = .ok condition)
include encodes mapped

theorem operands_of_mapExcept : condition.operands = (expression.slots columns).map type.value := by
  rw [Expression.slots, List.map_flatMap]
  apply flatMap_of_forall₂ (Formula.forall₂_of_mapExcept mapped)
  intro clause alternatives made
  rw [(Target.alternatives_of encodes made).2, boundValues_eq]

theorem operandCount_of_mapExcept : condition.operandCount = (expression.slots columns).length := by
  rw [Condition.operandCount_eq, operands_of_mapExcept encodes mapped, List.length_map]

end Operands

/-! The text. -/

/-- Two texts are one template, with the searches at these places, as two ways to search write it. -/
def Templated (search search' : TextSearch) (places : List (Slot × Nat)) (text text' : List Char) :
    Prop :=
  ∃ template : List Glyph, template.filterMap Glyph.place? = places ∧
    text = template.flatMap (Glyph.write search) ∧ text' = template.flatMap (Glyph.write search')

namespace Templated

variable {search search' : TextSearch} {places later : List (Slot × Nat)}
  {text text' rest rest' : List Char}

theorem chars (text : List Char) : Templated search search' [] text text := by
  refine ⟨text.map .char, ?_, ?_, ?_⟩
  · simp [List.filterMap_map, Function.comp_def, Glyph.place?]
  · simp [List.flatMap_map, Glyph.write]
  · simp [List.flatMap_map, Glyph.write]

theorem place (sought : Sought) (column : String) (number : Nat) :
    Templated search search' [(.searched sought column, number)]
      (Glyph.write search (.search sought column number))
      (Glyph.write search' (.search sought column number)) :=
  ⟨[.search sought column number], rfl, by simp, by simp⟩

theorem append (front : Templated search search' places text text')
    (back : Templated search search' later rest rest') :
    Templated search search' (places ++ later) (text ++ rest) (text' ++ rest') := by
  obtain ⟨template, rfl, rfl, rfl⟩ := front
  obtain ⟨template', rfl, rfl, rfl⟩ := back
  exact ⟨template ++ template', List.filterMap_append, List.flatMap_append.symm,
    List.flatMap_append.symm⟩

theorem chars_append (front : List Char) (back : Templated search search' places text text') :
    Templated search search' places (front ++ text) (front ++ text') :=
  (chars front).append back

theorem append_chars (front : Templated search search' places text text') (back : List Char) :
    Templated search search' places (text ++ back) (text' ++ back) := by
  have whole := front.append (chars back)
  rwa [List.append_nil] at whole

theorem join (connective : Connective) {left left' right right' : Condition Nat}
    (onLeft : Templated search search' places left.write left'.write)
    (onRight : Templated search search' later right.write right'.write) :
    Templated search search' (places ++ later) (Condition.write (.join connective left right))
      (Condition.write (.join connective left' right')) := by
  have text (left right : Condition Nat) : Condition.write (.join connective left right) =
      ['('] ++ (left.write ++ ((' ' :: (connective.word.toList ++ [' '])) ++
        (right.write ++ [')']))) := by
    have written := Formula.write_join Condition.writeAlternatives connective left right []
    simpa [Condition.write] using written
  rw [text, text]
  exact (onLeft.append ((onRight.append_chars [')']).chars_append _)).chars_append ['(']

theorem negation {inner inner' : Condition Nat}
    (inside : Templated search search' places inner.write inner'.write) :
    Templated search search' places (Condition.write (.negation inner))
      (Condition.write (.negation inner')) := by
  have text (inner : Condition Nat) : Condition.write (.negation inner) =
      "NOT (".toList ++ (inner.write ++ [')']) := by
    have written := Formula.write_negation Condition.writeAlternatives inner []
    simpa [Condition.write] using written
  rw [text, text]
  exact (inside.append_chars [')']).chars_append _

end Templated

theorem searchPlaces_append (first : Nat) (front back : List Slot) :
    searchPlaces first (front ++ back) =
      searchPlaces first front ++ searchPlaces (first + front.length) back := by
  rw [searchPlaces, List.zipIdx_append, List.filter_append, searchPlaces, searchPlaces,
    Nat.add_comm]

theorem searchPlaces_searched (first : Nat) (sought : Sought) (columns : List String) :
    searchPlaces first (columns.map (.searched sought)) =
      (columns.zipIdx first).map fun place => (.searched sought place.1, place.2) := by
  rw [searchPlaces, List.zipIdx_map, List.filter_eq_self.2]
  · rfl
  · intro place member
    obtain ⟨column, _, rfl⟩ := List.mem_map.1 member
    rfl

theorem searchPlaces_given (first : Nat) (values : List String) :
    searchPlaces first (values.map .given) = [] := by
  rw [searchPlaces, List.zipIdx_map, List.filter_eq_nil_iff]
  intro place member
  obtain ⟨value, _, rfl⟩ := List.mem_map.1 member
  simp [Slot.isSearched]

section Runs

variable {search search' : TextSearch} {type type' : SearchType} {schema : Schema}
  {columns : List String}

/-- A search has one operand, so the searches in a row of columns are numbered one by one. -/
theorem numberAlternatives_predicate (encodes : search.Encodes type) (first : Nat) (sought : Sought)
    (names : List String) :
    Condition.numberAlternatives first (names.map fun name =>
        search.predicate (quoteIdentifier name) sought) =
      (names.zipIdx first).map fun place =>
        (search.predicate (quoteIdentifier place.1) sought).number place.2 := by
  induction names generalizing first with
  | nil => rfl
  | cons name names ih =>
    have one := (encodes.predicate (quoteIdentifier name) sought).operands_eq
    rw [List.map_cons, Condition.numberAlternatives, one, List.zipIdx_cons, List.map_cons]
    exact congrArg _ (ih (first + 1))

theorem templated_intercalate (separator : List Char) (sought : Sought)
    (places : List (String × Nat)) :
    Templated search search' (places.map fun place => (.searched sought place.1, place.2))
      (separator.intercalate (places.map fun place =>
        Glyph.write search (.search sought place.1 place.2)))
      (separator.intercalate (places.map fun place =>
        Glyph.write search' (.search sought place.1 place.2))) := by
  induction places with
  | nil => exact .chars []
  | cons place places ih =>
    cases places with
    | nil =>
      simp only [List.map_cons, List.map_nil, List.intercalate_singleton]
      exact .place sought place.1 place.2
    | cons next places =>
      simp only [List.map_cons, List.intercalate_cons_cons, List.append_assoc] at ih ⊢
      exact (Templated.place sought place.1 place.2).append (ih.chars_append separator)

/-- Something that is looked for in each of the columns. -/
theorem templated_searches (encodes : search.Encodes type) (encodes' : search'.Encodes type')
    (first : Nat) (sought : Sought) (names : List String) :
    Templated search search' (searchPlaces first (names.map (.searched sought)))
      (Condition.writeAlternatives (Condition.numberAlternatives first (names.map fun name =>
        search.predicate (quoteIdentifier name) sought)))
      (Condition.writeAlternatives (Condition.numberAlternatives first (names.map fun name =>
        search'.predicate (quoteIdentifier name) sought))) := by
  rw [numberAlternatives_predicate encodes, numberAlternatives_predicate encodes',
    searchPlaces_searched]
  have items : Templated search search' _ _ _ :=
    templated_intercalate " OR ".toList sought (names.zipIdx first)
  have several := (items.append_chars [')']).chars_append ['(']
  match names with
  | [] => exact several
  | [name] => exact .place sought name first
  | _ :: _ :: _ => simpa [Condition.writeAlternatives, Glyph.write, Function.comp_def] using several

/-- The way to search says nothing of a clause on a field. -/
theorem alternatives_of_field? {clause : Clause Field String} {field : Field}
    (named : clause.field? = some field) :
    (Target.of schema columns search).alternatives clause =
      (Target.of schema columns search').alternatives clause := by
  cases clause with
  | term | wildcard => cases named
  | equals | range | member => rfl

theorem exists_slots_of_field? {clause : Clause Field String} {field : Field}
    (named : clause.field? = some field) :
    ∃ values : List String, clause.slots columns = values.map .given := by
  cases clause with
  | term | wildcard => cases named
  | equals field value => exact ⟨[value], rfl⟩
  | member field values => exact ⟨values, rfl⟩
  | range field operator low upper =>
    cases operator with
    | bound comparison => exact ⟨[low], rfl⟩
    | between =>
      cases upper with
      | none => exact ⟨[low], rfl⟩
      | some high => exact ⟨[low, high], rfl⟩

theorem templated_alternatives (encodes : search.Encodes type) (encodes' : search'.Encodes type')
    (first : Nat) {clause : Clause Field String} {made made' : List (Predicate String)}
    (compiled : (Target.of schema columns search).alternatives clause = .ok made)
    (compiled' : (Target.of schema columns search').alternatives clause = .ok made') :
    Templated search search' (searchPlaces first (clause.slots columns))
      (Condition.writeAlternatives (Condition.numberAlternatives first made))
      (Condition.writeAlternatives (Condition.numberAlternatives first made')) := by
  cases named : clause.field? with
  | some field =>
    obtain ⟨values, slots⟩ := exists_slots_of_field? named
    rw [alternatives_of_field? named, compiled'] at compiled
    obtain rfl := Except.ok.inj compiled
    rw [slots, searchPlaces_given]
    exact .chars _
  | none =>
    cases clause with
    | equals | range | member => cases named
    | term value =>
      obtain rfl := Target.eq_of_onAnyColumn compiled
      obtain rfl := Target.eq_of_onAnyColumn compiled'
      exact templated_searches encodes encodes' first (.word value) columns.eraseDups
    | wildcard stem quoted =>
      obtain rfl := Target.eq_of_onAnyColumn compiled
      obtain rfl := Target.eq_of_onAnyColumn compiled'
      exact templated_searches encodes encodes' first (.beginning stem) columns.eraseDups

/-- Two ways to search number the placeholders alike, since they bind one value in each place. -/
theorem templated_of_mapExcept (encodes : search.Encodes type) (encodes' : search'.Encodes type')
    {expression : Expression} {condition condition' : Condition String}
    (mapped : expression.mapExcept (Target.of schema columns search).alternatives = .ok condition)
    (mapped' : expression.mapExcept (Target.of schema columns search').alternatives = .ok condition')
    (first : Nat) :
    Templated search search' (searchPlaces first (expression.slots columns))
      (condition.number first).write (condition'.number first).write := by
  induction expression generalizing condition condition' first with
  | atom clause =>
    obtain ⟨made, compiled, rfl⟩ := Formula.mapExcept_atom_eq_ok.1 mapped
    obtain ⟨made', compiled', rfl⟩ := Formula.mapExcept_atom_eq_ok.1 mapped'
    have here := templated_alternatives encodes encodes' first compiled compiled'
    simpa [Condition.number, Condition.write, Formula.write_atom, Expression.slots, Formula.atoms]
      using here
  | join connective left right leftIh rightIh =>
    obtain ⟨one, other, onLeft, onRight, rfl⟩ := Formula.mapExcept_join_eq_ok.1 mapped
    obtain ⟨one', other', onLeft', onRight', rfl⟩ := Formula.mapExcept_join_eq_ok.1 mapped'
    have slots : Expression.slots (.join connective left right) columns =
        Expression.slots left columns ++ Expression.slots right columns := by
      simp [Expression.slots, Formula.atoms]
    rw [slots, searchPlaces_append, Condition.number, Condition.number,
      operandCount_of_mapExcept encodes onLeft, operandCount_of_mapExcept encodes' onLeft']
    exact (leftIh onLeft onLeft' first).join connective (rightIh onRight onRight' _)
  | negation inner ih =>
    obtain ⟨inside, into, rfl⟩ := Formula.mapExcept_negation_eq_ok.1 mapped
    obtain ⟨inside', into', rfl⟩ := Formula.mapExcept_negation_eq_ok.1 mapped'
    exact (ih into into' first).negation

theorem follows_ofCondition (encodes : search.Encodes type) {expression : Expression}
    {condition : Condition String}
    (mapped : expression.mapExcept (Target.of schema columns search).alternatives = .ok condition)
    {template : List Glyph}
    (text : (condition.number 1).write = template.flatMap (Glyph.write search)) :
    (Statement.ofCondition condition).Follows search template (expression.slots columns) := by
  have values : (Statement.ofCondition condition).values =
      (expression.slots columns).map type.value := operands_of_mapExcept encodes mapped
  constructor
  · rw [Statement.ofCondition, String.toList_ofList, text]
  · rw [values, List.length_map]
  · intro index value here
    rw [values, List.getElem?_map, here]
    rfl
  · intro index sought column here
    refine ⟨type.operand sought, ?_, (encodes.predicate _ sought).operands_eq⟩
    rw [values, List.getElem?_map, here]
    rfl

/-- Where only fields are named the way to search does not matter. -/
theorem mapExcept_of_field? {expression : Expression}
    (named : ∀ clause ∈ expression.atoms, clause.field? ≠ none) :
    expression.mapExcept (Target.of schema columns search).alternatives =
      expression.mapExcept (Target.of schema columns search').alternatives := by
  apply Formula.mapExcept_congr
  intro clause member
  obtain ⟨field, here⟩ := Option.ne_none_iff_exists'.1 (named clause member)
  exact alternatives_of_field? here

end Runs

/-- Under two choices of the way to search an expression fails alike, or it has two statements that
follow one template: they differ in what is written where a word is looked for in a column, which is
one placeholder each, and in the values bound there. If it names a field in every clause, the
statements are the same. -/
theorem compile_strategies (options options' : Options) (schema : Schema) (columns : List String)
    (expression : Expression)
    (configured : options.searchType = .tsvector → NamesConfiguration options.configuration)
    (configured' : options'.searchType = .tsvector → NamesConfiguration options'.configuration) :
    (∃ failure, compile options schema columns expression = .error failure ∧
      compile options' schema columns expression = .error failure) ∨
    ∃ statement statement', compile options schema columns expression = .ok statement ∧
      compile options' schema columns expression = .ok statement' ∧
      statement.values.length = statement'.values.length ∧
      (∃ search search' template, TextSearch.ofOptions options = .ok search ∧
        TextSearch.ofOptions options' = .ok search' ∧
        template.filterMap Glyph.place? = searchPlaces 1 (expression.slots columns) ∧
        statement.Follows search template (expression.slots columns) ∧
        statement'.Follows search' template (expression.slots columns)) ∧
      ((∀ clause ∈ expression.atoms, clause.field? ≠ none) → statement = statement') := by
  obtain ⟨search, made⟩ := TextSearch.exists_ofOptions fun type =>
    isConfigurationName_iff.2 (configured type)
  obtain ⟨search', made'⟩ := TextSearch.exists_ofOptions fun type =>
    isConfigurationName_iff.2 (configured' type)
  cases compiled : compile options schema columns expression with
  | error failure =>
    have failed := (compile_eq_error_iff made').2 ((compile_eq_error_iff made).1 compiled)
    exact .inl ⟨failure, rfl, failed⟩
  | ok statement =>
    obtain ⟨statement', compiled'⟩ := (exists_compile made').2 ((exists_compile made).1 ⟨_, compiled⟩)
    obtain ⟨_, condition, found, mapped, rfl⟩ := compile_eq_ok.1 compiled
    obtain rfl := Except.ok.inj (made.symm.trans found)
    obtain ⟨_, condition', found', mapped', rfl⟩ := compile_eq_ok.1 compiled'
    obtain rfl := Except.ok.inj (made'.symm.trans found')
    have encodes := TextSearch.encodes_of_ofOptions made
    have encodes' := TextSearch.encodes_of_ofOptions made'
    obtain ⟨template, places, text, text'⟩ := templated_of_mapExcept encodes encodes' mapped mapped' 1
    have follows := follows_ofCondition encodes mapped text
    have follows' := follows_ofCondition encodes' mapped' text'
    refine .inr ⟨_, _, rfl, compiled', follows.length.trans follows'.length.symm,
      ⟨search, search', template, made, made', places, follows, follows'⟩, ?_⟩
    intro named
    rw [mapExcept_of_field? named, mapped'] at mapped
    rw [Except.ok.inj mapped]

theorem compile_strategies_mixed :
    let schema : Schema := ⟨[⟨"price", .number⟩]⟩
    let expression : Expression := .join .and (.atom (.wildcard "so $" false))
      (.join .or (.atom (.range ⟨"PRICE", none⟩ .between "1" (some "2")))
        (.negation (.atom (.term "word"))))
    ∃ statement statement', compile ⟨.ilike, ""⟩ schema ["a", "b"] expression = .ok statement ∧
      compile ⟨.tsvector, "english"⟩ schema ["a", "b"] expression = .ok statement' ∧
      statement.values = ["so $%", "so $%", "1", "2", "%word%", "%word%"] ∧
      statement'.values = ["so:*", "so:*", "1", "2", "word", "word"] ∧
      ∃ search search' template, TextSearch.ofOptions ⟨.ilike, ""⟩ = .ok search ∧
        TextSearch.ofOptions ⟨.tsvector, "english"⟩ = .ok search' ∧
        template.filterMap Glyph.place? = searchPlaces 1 (expression.slots ["a", "b"]) ∧
        statement.Follows search template (expression.slots ["a", "b"]) ∧
        statement'.Follows search' template (expression.slots ["a", "b"]) := by
  intro schema expression
  have compiled : compile ⟨.ilike, ""⟩ schema ["a", "b"] expression = .ok
      ⟨"((\"a\" ILIKE $1 OR \"b\" ILIKE $2) AND (\"price\" BETWEEN $3::numeric AND $4::numeric OR " ++
        "NOT ((\"a\" ILIKE $5 OR \"b\" ILIKE $6))))",
        ["so $%", "so $%", "1", "2", "%word%", "%word%"]⟩ := by decide +kernel
  have compiled' : (compile ⟨.tsvector, "english"⟩ schema ["a", "b"] expression).map
      Statement.values = .ok ["so:*", "so:*", "1", "2", "word", "word"] := by decide +kernel
  rcases compile_strategies ⟨.ilike, ""⟩ ⟨.tsvector, "english"⟩ schema ["a", "b"] expression nofun
    (fun _ => isConfigurationName_iff.1 (by decide)) with
      ⟨failure, failed, _⟩ | ⟨statement, statement', made, made', _, follows, _⟩
  · cases compiled.symm.trans failed
  · obtain rfl := Except.ok.inj (compiled.symm.trans made)
    rw [made'] at compiled'
    exact ⟨_, statement', made, made', rfl, Except.ok.inj compiled', follows⟩

end Sql

end SearchBox
