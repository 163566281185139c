import Mathlib.Order.WellFounded
import SearchBox.Proofs.Narrowing
import SearchBox.Proofs.Schema
import SearchBox.Proofs.Sql.Compile

/-! Which name is suggested for one that is not declared, and that nothing depends on the order of the
declarations. A schema is asked what a name finds and for its sorted names; both are the same for
schemas that find the same declarations. -/

namespace SearchBox

/-! Names are compared as texts, which is the order of their bytes. -/

/-- The bytes of a text in UTF-8. -/
def utf8Bytes (text : List Char) : List Nat :=
  text.flatMap fun c => (String.utf8EncodeChar c).map UInt8.toNat

/-- The bytes of the first text come before those of the second one, as in a dictionary. -/
def BytesBefore (first second : String) : Prop :=
  List.Lex (fun byte byte' => byte < byte') (utf8Bytes first.toList) (utf8Bytes second.toList)

/-- The first byte that differs is greater in the encoding of the greater character; the encodings of
two characters do differ within both of them. -/
theorem lex_utf8EncodeChar {c d : Char} (less : c.val.toNat < d.val.toNat) (rest rest' : List Nat) :
    List.Lex (fun byte byte' => byte < byte') ((String.utf8EncodeChar c).map UInt8.toNat ++ rest)
      ((String.utf8EncodeChar d).map UInt8.toNat ++ rest') := by
  have bound : d.val.toNat < 0x110000 := by
    rcases d.valid with below | above <;> omega
  -- The digits in base 64, each of them from the next one.
  have twice (v : Nat) : v / 4096 = v / 64 / 64 := (Nat.div_div_eq_div_mul v 64 64).symm
  have thrice (v : Nat) : v / 262144 = v / 64 / 64 / 64 := by
    rw [Nat.div_div_eq_div_mul, Nat.div_div_eq_div_mul]
  fun_cases String.utf8EncodeChar c <;> fun_cases String.utf8EncodeChar d <;>
    simp only [List.map_cons, List.map_nil, List.cons_append, List.nil_append,
      List.cons_lex_cons_iff, UInt8.toNat_ofNat', twice, thrice] <;>
    omega

theorem lex_utf8Bytes {text other : List Char}
    (less : List.Lex (fun c d => c.val.toNat < d.val.toNat) text other) :
    List.Lex (fun byte byte' => byte < byte') (utf8Bytes text) (utf8Bytes other) := by
  induction less with
  | @nil c text =>
    rw [utf8Bytes, utf8Bytes, List.flatMap_cons]
    fun_cases String.utf8EncodeChar c <;> exact .nil
  | rel less => exact lex_utf8EncodeChar less _ _
  | @cons c text other _ ih =>
    have behind (bytes : List Nat) : List.Lex (fun byte byte' => byte < byte')
        (bytes ++ utf8Bytes text) (bytes ++ utf8Bytes other) := by
      induction bytes with
      | nil => exact ih
      | cons byte bytes later => exact .cons later
    exact behind _

theorem not_bytesBefore {first second : String} (ordered : first ≤ second) :
    ¬BytesBefore second first := by
  have irrefl : ¬BytesBefore first first := List.lex_irrefl Nat.lt_irrefl _
  by_cases other : second ≤ first
  · rwa [String.le_antisymm other ordered]
  · have less : BytesBefore first second := lex_utf8Bytes (String.not_le.1 other)
    exact List.lex_asymm Nat.lt_asymm less

/-! The suggested name. -/

def nameDistance (written declared : String) : Nat :=
  editDistance (lowercase written).toList (lowercase declared).toList

/-- How far a name may be from what was written. -/
def nameReach (written : String) : Nat :=
  suggestionReach (byteWidth (lowercase written).toList)

/-- Pairs of names and their distances are searched as the names are. -/
theorem find?_least (distance : String → Nat) (reach : Nat) (candidates : List String) :
    let near := (candidates.map fun name => (name, distance name)).filter fun entry =>
      decide (entry.2 ≤ reach)
    let names := candidates.filter fun name => decide (distance name ≤ reach)
    (near.find? fun entry => near.all fun other => decide (entry.2 ≤ other.2)).map Prod.fst =
      names.find? fun name => names.all fun other => decide (distance name ≤ distance other) := by
  simp only [List.filter_map, List.find?_map, List.all_map, Option.map_map]
  exact congrFun Option.map_id _

theorem nearestName?_eq (written : String) (candidates : List String) :
    nearestName? written candidates =
      let near := candidates.filter fun name => decide (nameDistance written name ≤ nameReach written)
      near.find? fun name => near.all fun other =>
        decide (nameDistance written name ≤ nameDistance written other) :=
  find?_least (nameDistance written) (nameReach written) candidates

theorem nearestName?_eq_none {written : String} {candidates : List String} :
    nearestName? written candidates = none ↔
      ∀ name ∈ candidates, nameReach written < nameDistance written name := by
  have empty : candidates.filter (fun name =>
      decide (nameDistance written name ≤ nameReach written)) = [] ↔
      ∀ name ∈ candidates, nameReach written < nameDistance written name := by
    simp [List.filter_eq_nil_iff]
  rw [nearestName?_eq, ← empty]
  generalize candidates.filter (fun name =>
    decide (nameDistance written name ≤ nameReach written)) = near
  constructor
  · intro missing
    by_contra filled
    -- One of the names that are near is nearest.
    obtain ⟨name, member, least⟩ := (measure (nameDistance written)).wf.has_min {name | name ∈ near}
      (List.exists_mem_of_ne_nil near filled)
    refine List.find?_eq_none.1 missing name member (List.all_eq_true.2 ?_)
    intro other member'
    exact decide_eq_true (Nat.le_of_not_lt (least other member'))
  · rintro rfl
    rfl

/-- Of sorted names the nearest is suggested, and of several that are nearest the first. -/
theorem of_nearestName? {written name : String} {candidates : List String}
    (sorted : candidates.Pairwise (· ≤ ·)) (found : nearestName? written candidates = some name) :
    name ∈ candidates ∧ nameDistance written name ≤ nameReach written ∧
      (∀ other ∈ candidates, nameDistance written name ≤ nameDistance written other) ∧
      ∀ other ∈ candidates, nameDistance written other = nameDistance written name → name ≤ other := by
  rw [nearestName?_eq, List.find?_eq_some_iff_append] at found
  obtain ⟨least, before, after, row, earlier⟩ := found
  obtain ⟨member, near⟩ : name ∈ candidates ∧ nameDistance written name ≤ nameReach written := by
    have inRow : name ∈ candidates.filter fun name =>
        decide (nameDistance written name ≤ nameReach written) := by simp [row]
    simpa using inRow
  have nearest : ∀ other ∈ candidates, nameDistance written name ≤ nameDistance written other := by
    intro other inside
    by_cases reached : nameDistance written other ≤ nameReach written
    · simp only [List.all_eq_true, List.mem_filter, decide_eq_true_eq] at least
      exact least other ⟨inside, reached⟩
    · omega
  refine ⟨member, near, nearest, ?_⟩
  intro other inside level
  have inRow : other ∈ before ++ name :: after := by
    rw [← row, List.mem_filter]
    exact ⟨inside, decide_eq_true (level ▸ near)⟩
  have ordered : (before ++ name :: after).Pairwise (· ≤ ·) := row ▸ sorted.filter _
  rcases List.mem_append.1 inRow with inFront | behind
  · -- A name in front that is as near would have been found.
    have refused := earlier other inFront
    simp only [level, least, Bool.not_true, Bool.false_eq_true] at refused
  · rcases List.mem_cons.1 behind with rfl | behind
    · exact String.le_refl _
    · exact (List.pairwise_cons.1 (List.pairwise_append.1 ordered).2.1).1 other behind

namespace Schema

variable {schema schema' : Schema}

/-- What is suggested for a name that was written: of the declared names that are nearest to it the one
whose bytes come first, if it is near enough. -/
structure Suggests (schema : Schema) (written name : String) : Prop where
  named : schema.Names name
  near : nameDistance written name ≤ nameReach written
  nearest : ∀ other, schema.Names other → nameDistance written name ≤ nameDistance written other
  first : ∀ other, schema.Names other → nameDistance written other = nameDistance written name →
    ¬BytesBefore other name

theorem suggests_of_nearestName? {written name : String}
    (found : nearestName? written schema.names = some name) : schema.Suggests written name := by
  obtain ⟨member, near, nearest, first⟩ := of_nearestName? pairwise_names found
  refine ⟨mem_names.1 member, near, fun other named => nearest other (mem_names.2 named), ?_⟩
  intro other named level
  exact not_bytesBefore (first other (mem_names.2 named) level)

theorem nearestName?_isSome {written : String} :
    (nearestName? written schema.names).isSome = true ↔
      ∃ name, schema.Names name ∧ nameDistance written name ≤ nameReach written := by
  rw [Option.isSome_iff_ne_none, ne_eq, nearestName?_eq_none]
  simp [mem_names]

end Schema

/-! Reports that a field is unknown. -/

theorem FieldName.code_of_problems {field : FieldName} {d : Diagnostic} (member : d ∈ field.problems) :
    d.code = .invalidFieldChars ∨ d.code = .reservedWordAsField := by
  rcases List.mem_append.1 member with malformed | reserved
  · split at malformed
    · cases malformed
    · cases List.mem_singleton.1 malformed
      exact .inl rfl
  · split at reserved
    · cases List.mem_singleton.1 reserved
      exact .inr rfl
    · cases reserved

theorem Literal.code_of_listProblems {value : Literal} {d : Diagnostic}
    (member : d ∈ value.listProblems) : d.code = .invalidInValue := by
  unfold listProblems at member
  split at member
  · cases List.mem_singleton.1 member
    rfl
  · cases member

theorem Clause.code_of_structuralProblems {clause : Clause FieldName Literal} {d : Diagnostic}
    (member : d ∈ clause.structuralProblems) : d.code = .invalidFieldChars ∨
      d.code = .reservedWordAsField ∨ d.code = .invalidInValue := by
  have ofField (inField : d ∈ (clause.field?.map FieldName.problems).getD []) :
      d.code = .invalidFieldChars ∨ d.code = .reservedWordAsField ∨ d.code = .invalidInValue := by
    cases named : clause.field? with
    | none => simp [named] at inField
    | some field =>
      rw [named] at inField
      exact (FieldName.code_of_problems inField).imp_right .inl
  unfold structuralProblems at member
  split at member
  · rcases List.mem_append.1 member with inField | inValues
    · exact ofField inField
    · obtain ⟨value, _, inValue⟩ := List.mem_flatMap.1 inValues
      exact .inr (.inr (Literal.code_of_listProblems inValue))
  · exact ofField member

namespace Tree

theorem code_of_structuralProblems {tree : Tree} {d : Diagnostic}
    (member : d ∈ tree.structuralProblems) : d.code = .invalidFieldChars ∨
      d.code = .reservedWordAsField ∨ d.code = .invalidInValue := by
  obtain ⟨⟨span, clause⟩, _, inClause⟩ := List.mem_flatMap.1 member
  exact Clause.code_of_structuralProblems inClause

/-- A report that a field is unknown says how it was written and what is suggested for it. -/
theorem unknownField_of_problems {schema : Schema} {tree : Tree} {d : Diagnostic}
    (member : d ∈ tree.problems schema) (unknown : d.code = .unknownField) :
    ∃ field : FieldName, schema.lookup? field.name = none ∧ d = field.undeclared schema.names := by
  rcases mem_mergeDiagnostics.1 member with structural | ⟨schematic, _⟩
  · have code := code_of_structuralProblems structural
    simp [unknown] at code
  · unfold schemaProblems at schematic
    split at schematic
    · cases schematic
    · obtain ⟨⟨span, clause⟩, _, inClause⟩ := List.mem_flatMap.1 schematic
      unfold Clause.schemaProblems at inClause
      split at inClause
      · cases inClause
      · next field _ =>
        split at inClause
        · next missing => exact ⟨field, missing, List.mem_singleton.1 inClause⟩
        · cases (Clause.code_of_typeProblems inClause).symm.trans unknown

end Tree

/-! Schemas that find the same declarations. -/

namespace Schema.Agrees

variable {schema schema' : Schema} (agrees : schema.Agrees schema')
include agrees

theorem problems_eq (tree : Tree) : tree.problems schema = tree.problems schema' := by
  have clauses (names : List String) (span : Span) (clause : Clause FieldName Literal) :
      clause.schemaProblems schema names span = clause.schemaProblems schema' names span := by
    unfold Clause.schemaProblems
    split
    · rfl
    · rw [agrees]
  rw [Tree.problems, Tree.problems, Tree.schemaProblems, Tree.schemaProblems, agrees.isEmpty_eq,
    agrees.names_eq]
  simp only [clauses]

theorem expression_eq (tree : Tree) : tree.expression schema = tree.expression schema' := by
  have fields : Tree.resolve schema = Tree.resolve schema' := by
    funext field
    rw [Tree.resolve, Tree.resolve, agrees]
  rw [Tree.expression, Tree.expression, fields]

theorem parse_eq (limits : Limits) (input : String) :
    Query.parse limits schema input = Query.parse limits schema' input := by
  cases Query.outcome limits input with
  | tooLong _ always | refused _ _ _ always | blank always => rw [always, always]
  | read tree _ _ always =>
    rw [always, always, Query.ofTree, Query.ofTree, agrees.problems_eq, agrees.expression_eq]

theorem alternatives_eq (columns : List String) (search : Sql.TextSearch)
    (clause : Clause Field String) : (Sql.Target.of schema columns search).alternatives clause =
      (Sql.Target.of schema' columns search).alternatives clause := by
  have onField (field : Field) (predicate : (column : String) → FieldType → Sql.Predicate String) :
      (Sql.Target.of schema columns search).onField field predicate =
        (Sql.Target.of schema' columns search).onField field predicate := by
    have same := agrees field.name
    simp only [Sql.Target.onField, Sql.Target.of, same]
  cases clause with
  | term | wildcard => rfl
  | equals field | range field | member field =>
    rw [Sql.Target.alternatives, Sql.Target.alternatives]
    exact onField field _

theorem compile_eq (options : Sql.Options) (columns : List String) (expression : Expression) :
    Sql.compile options schema columns expression =
      Sql.compile options schema' columns expression := by
  cases made : Sql.TextSearch.ofOptions options with
  | error failure =>
    rw [Sql.compile_of_ofOptions_eq_error made, Sql.compile_of_ofOptions_eq_error made]
  | ok search =>
    rw [Sql.compile_of_ofOptions made, Sql.compile_of_ofOptions made]
    apply congrArg
    exact Formula.mapExcept_congr fun clause _ => agrees.alternatives_eq columns search clause

end Schema.Agrees

/-- The order of declarations does not matter. Schemas that find the same declarations read every query
alike, to the words of the reports, and compile every expression alike; and the names are in one order
whatever the order in which a table lists the declarations. What is suggested for a name that is not
declared is there exactly if some declared name is near enough, and is of the nearest ones the one
whose bytes come first. -/
theorem Schema.alike_of_lookup? {schema schema' : Schema}
    (agrees : ∀ name, schema.lookup? name = schema'.lookup? name) :
    (∀ limits input, Query.parse limits schema input = Query.parse limits schema' input) ∧
    (∀ options columns expression, Sql.compile options schema columns expression =
      Sql.compile options schema' columns expression) ∧
    (∀ order : List Declaration, order.Perm schema.inForce →
      (order.map Declaration.name).mergeSort (fun first second => decide (first ≤ second)) =
        schema.names) ∧
    ∀ limits input error, Query.parse limits schema input = .error error →
      ∀ d ∈ error.diagnostics, d.code = .unknownField →
        ∃ written suggestion?, d = (Problem.unknownField written suggestion?).report d.span ∧
          schema.lookup? written = none ∧
          (suggestion?.isSome = true ↔
            ∃ name, schema.Names name ∧ nameDistance written name ≤ nameReach written) ∧
          ∀ name, suggestion? = some name → schema.Suggests written name := by
  refine ⟨Agrees.parse_eq agrees, Agrees.compile_eq agrees, fun _ => mergeSort_names, ?_⟩
  intro limits input error refused d member unknown
  cases Query.outcome limits input with
  | tooLong _ always =>
    rw [always] at refused
    cases refused
    cases List.mem_singleton.1 member
    cases unknown
  | refused diagnostic _ found always =>
    rw [always] at refused
    cases refused
    cases List.mem_singleton.1 member
    have fatal := (Lexer.between_of_refused found).1
    rw [unknown] at fatal
    cases fatal
  | blank always =>
    rw [always] at refused
    cases refused
  | read tree _ _ always =>
    rw [always] at refused
    obtain ⟨rfl, _⟩ := Query.ofTree_eq_error refused
    obtain ⟨field, missing, rfl⟩ := Tree.unknownField_of_problems member unknown
    exact ⟨field.name, nearestName? field.name schema.names, rfl, missing, nearestName?_isSome,
      fun name => suggests_of_nearestName?⟩

/-- Two names are as near to what was written; the capital letter comes first. -/
theorem Schema.alike_of_lookup?_swapped :
    let schema : Schema := ⟨[⟨"bat", .number⟩, ⟨"Cat", .string⟩]⟩
    let schema' : Schema := ⟨[⟨"Cat", .string⟩, ⟨"bat", .number⟩]⟩
    let error : QueryError := ⟨[(Problem.unknownField "rat" (some "Cat")).report ⟨0, 3⟩]⟩
    (∀ name, schema.lookup? name = schema'.lookup? name) ∧
      Query.parse ⟨64, 8⟩ schema "rat:1" = .error error ∧
      Query.parse ⟨64, 8⟩ schema' "rat:1" = .error error ∧
      ∃ name, schema.Suggests "rat" name := by
  intro schema schema' error
  have agrees : schema.Agrees schema' := agrees_of_perm (.swap _ _ []) (by decide +kernel)
  have names : schema.names = ["Cat", "bat"] := by
    have inForce : schema.inForce = [⟨"bat", .number⟩, ⟨"Cat", .string⟩] := by decide +kernel
    have above : ¬"bat" ≤ "Cat" := by decide
    rw [Schema.names, inForce]
    simp [List.mergeSort, List.MergeSort.Internal.splitInTwo, above]
  let tree : Tree := .leaf ⟨0, 5⟩ (.equals ⟨"rat", ⟨0, 3⟩⟩ ⟨"1", .number, ⟨4, 1⟩⟩)
  have found : Tree.ofTokens (some 8) (tokenize "rat:1") = .ok (some tree) := by decide +kernel
  have schematic : tree.schemaProblems schema = error.diagnostics := by
    rw [Tree.schemaProblems, names]
    decide +kernel
  have problems : tree.problems schema = error.diagnostics := by
    rw [Tree.problems, schematic]
    exact List.mergeSort_singleton _
  have refused : Query.parse ⟨64, 8⟩ schema "rat:1" = .error error := by
    rw [Query.parse_of_short (by decide), found]
    exact (Query.ofTree_of_dirty (by simp [problems, error])).trans (by rw [problems])
  obtain ⟨alike, _, _, suggested⟩ := alike_of_lookup? agrees
  obtain ⟨written, suggestion?, same, _, _, suggests⟩ :=
    suggested _ _ _ refused _ List.mem_cons_self rfl
  refine ⟨agrees, refused, (alike _ _).symm.trans refused, ?_⟩
  obtain rfl : "rat" = written := Option.some.inj (congrArg Diagnostic.value? same)
  cases suggestion? with
  | none => exact absurd (congrArg Diagnostic.message same) (by decide +kernel)
  | some name => exact ⟨name, suggests name rfl⟩

end SearchBox
