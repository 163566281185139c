import SearchBox.Proofs.Grammar.Spans
import SearchBox.Proofs.Merging
import SearchBox.Proofs.Validity

/-! What is wrong with a query is told clause by clause. Reports begin inside their clause and clauses
stand side by side, so joining the reports of a whole tree and sorting them by position is the same as
joining and sorting those of one clause after another. -/

namespace SearchBox

/-- The inner span begins before the outer one ends, and not before it begins. -/
def Span.BeginsIn (inner outer : Span) : Prop :=
  outer.position ≤ inner.position ∧ inner.position < outer.stop

theorem Span.Within.beginsIn {inner outer : Span} (within : inner.Within outer)
    (visible : 0 < inner.length) : inner.BeginsIn outer :=
  ⟨within.1, Nat.lt_of_lt_of_le (Nat.lt_add_of_pos_right visible) within.2⟩

section Merging

variable {ι : Type} {place : ι → Span} {first second : ι → List Diagnostic} {items : List ι}

/-- Items that stand side by side and have reports inside them share no position. -/
theorem eq_of_beginsIn (apart : items.Pairwise fun item other => (place item).stop ≤ (place other).position)
    {item other : ι} (member : item ∈ items) (member' : other ∈ items) {span span' : Span}
    (inside : span.BeginsIn (place item)) (inside' : span'.BeginsIn (place other))
    (same : span.position = span'.position) : item = other := by
  obtain ⟨i, iBound, rfl⟩ := List.getElem_of_mem member
  obtain ⟨j, jBound, rfl⟩ := List.getElem_of_mem member'
  obtain ⟨starts, ends⟩ := inside
  obtain ⟨starts', ends'⟩ := inside'
  have ordered := List.pairwise_iff_getElem.1 apart
  rcases Nat.lt_trichotomy i j with before | rfl | behind
  · have := ordered i j iBound jBound before
    omega
  · rfl
  · have := ordered j i jBound iBound behind
    omega

/-- Reports of one position come from one item, so the two lists may be put together item by item. -/
theorem filter_position_append
    (apart : items.Pairwise fun item other => (place item).stop ≤ (place other).position)
    (inside : ∀ item ∈ items, ∀ d ∈ first item ++ second item, d.span.BeginsIn (place item))
    (k : Nat) :
    (items.flatMap first ++ items.flatMap second).filter (·.span.position == k) =
      (items.flatMap fun item => first item ++ second item).filter (·.span.position == k) := by
  induction items with
  | nil => rfl
  | cons item items ih =>
    obtain ⟨ahead, rest⟩ := List.pairwise_cons.1 apart
    have later := ih rest fun other member => inside other (List.mem_cons_of_mem _ member)
    have swap : (items.flatMap first).filter (·.span.position == k) ++
          (second item).filter (·.span.position == k) =
        (second item).filter (·.span.position == k) ++
          (items.flatMap first).filter (·.span.position == k) := by
      by_cases absent : (second item).filter (·.span.position == k) = []
      · simp [absent]
      · obtain ⟨d, found⟩ := List.exists_mem_of_ne_nil _ absent
        obtain ⟨member, atK⟩ := List.mem_filter.1 found
        have before := (inside item (by simp) d (List.mem_append_right _ member)).2
        have none : (items.flatMap first).filter (·.span.position == k) = [] := by
          apply List.filter_eq_nil_iff.2
          intro e inLater
          obtain ⟨other, isLater, inFirst⟩ := List.mem_flatMap.1 inLater
          have behind := (inside other (List.mem_cons_of_mem _ isLater) e
            (List.mem_append_left _ inFirst)).1
          have ordered := ahead other isLater
          simp only [beq_iff_eq] at atK ⊢
          omega
        simp [none]
    simp only [List.flatMap_cons, List.filter_append, List.append_assoc] at later ⊢
    apply congrArg ((first item).filter _ ++ ·)
    rw [← List.append_assoc, swap, List.append_assoc, later]

/-- A report that shares its span with one of any item shares it with one of its own. -/
theorem sharesSpan_flatMap
    (apart : items.Pairwise fun item other => (place item).stop ≤ (place other).position)
    (inside : ∀ item ∈ items, ∀ d ∈ first item ++ second item, d.span.BeginsIn (place item))
    {item : ι} (member : item ∈ items) {d : Diagnostic} (inSecond : d ∈ second item) :
    d.sharesSpan (items.flatMap first) = d.sharesSpan (first item) := by
  have ofItem : (∃ other ∈ items, ∃ taken ∈ first other, taken.span = d.span) ↔
      ∃ taken ∈ first item, taken.span = d.span := by
    constructor
    · rintro ⟨other, member', taken, inOther, same⟩
      obtain rfl := eq_of_beginsIn apart member' member
        (inside other member' taken (List.mem_append_left _ inOther))
        (inside item member d (List.mem_append_right _ inSecond)) (by rw [same])
      exact ⟨taken, inOther, same⟩
    · exact fun here => ⟨item, member, here⟩
  rw [Bool.eq_iff_iff]
  simpa [Diagnostic.sharesSpan] using ofItem

/-- Reports of items that stand side by side may be merged item by item. -/
theorem mergeDiagnostics_flatMap
    (apart : items.Pairwise fun item other => (place item).stop ≤ (place other).position)
    (inside : ∀ item ∈ items, ∀ d ∈ first item ++ second item, d.span.BeginsIn (place item)) :
    mergeDiagnostics (items.flatMap first) (items.flatMap second) =
      items.flatMap fun item => mergeDiagnostics (first item) (second item) := by
  have news : (items.flatMap second).filter (fun d => !d.sharesSpan (items.flatMap first)) =
      items.flatMap fun item => (second item).filter fun d => !d.sharesSpan (first item) := by
    rw [List.filter_flatMap]
    apply List.flatMap_congr
    intro item member
    apply List.filter_congr
    intro d inSecond
    rw [sharesSpan_flatMap apart inside member inSecond]
  have insideNews : ∀ item ∈ items, ∀ d ∈ first item ++ (second item).filter fun d =>
      !d.sharesSpan (first item), d.span.BeginsIn (place item) := by
    intro item member d here
    apply inside item member d
    rcases List.mem_append.1 here with inFirst | inNews
    · exact List.mem_append_left _ inFirst
    · exact List.mem_append_right _ (List.mem_filter.1 inNews).1
  rw [mergeDiagnostics_eq, news]
  apply eq_of_filter_key_eq (pairwise_key_mergeSort _)
  · apply List.pairwise_flatMap.2
    refine ⟨fun item _ => pairwise_mergeDiagnostics, ?_⟩
    apply apart.imp_of_mem
    intro item other member member' ordered d inItem e inOther
    have ends := (insideNews item member d (List.mem_mergeSort.1 inItem)).2
    have starts := (insideNews other member' e (List.mem_mergeSort.1 inOther)).1
    omega
  · intro k
    rw [filter_key_mergeSort, filter_position_append apart insideNews, List.filter_flatMap,
      List.filter_flatMap]
    apply List.flatMap_congr
    intro item _
    exact (filter_key_mergeSort _ k).symm

end Merging

namespace Clause

variable {clause : Clause FieldName Literal} {span : Span} {d : Diagnostic}

/-- A structural problem is reported on the field or on a value. -/
theorem span_mem_of_structuralProblems (member : d ∈ clause.structuralProblems) :
    d.span ∈ clause.spans := by
  have ofField {field : FieldName} (inField : d ∈ field.problems) : d.span = field.span := by
    unfold FieldName.problems at inField
    rcases List.mem_append.1 inField with malformed | reserved
    · split at malformed <;> simp_all [Problem.report]
    · split at reserved <;> simp_all [Problem.report]
  have ofValue {value : Literal} (inValue : d ∈ value.listProblems) : d.span = value.span := by
    unfold Literal.listProblems at inValue
    split at inValue <;> simp_all [Problem.report]
  cases clause with
  | term value => cases member
  | wildcard stem quoted => cases member
  | equals field value => simp [spans, ofField member]
  | range field operator value upper => simp [spans, ofField member]
  | member field values =>
    rcases List.mem_append.1 member with inField | inValues
    · simp [spans, ofField inField]
    · obtain ⟨value, isValue, inValue⟩ := List.mem_flatMap.1 inValues
      exact List.mem_cons_of_mem _ (List.mem_map.2 ⟨value, isValue, (ofValue inValue).symm⟩)

/-- A problem against the schema is reported on the field, on a value or on the whole clause. -/
theorem span_mem_of_schemaProblems {schema : Schema} {names : List String}
    (member : d ∈ clause.schemaProblems schema names span) :
    d.span ∈ clause.spans ∨ d.span = span ∧ clause.spans ≠ [] := by
  have ofValue {type : FieldType} {field : FieldName} {value : Literal}
      (inValue : d ∈ value.typeProblems type field) : d.span = value.span := by
    unfold Literal.typeProblems at inValue
    split at inValue <;> simp_all [Problem.report]
  unfold schemaProblems at member
  cases named : clause.field? with
  | none => simp [named] at member
  | some field =>
    simp only [named] at member
    cases declared : schema.lookup? field.name with
    | none =>
      simp only [declared, List.mem_singleton] at member
      cases clause <;> simp_all [spans, Clause.field?, FieldName.undeclared, Problem.report]
    | some declaration =>
      simp only [declared] at member
      cases clause with
      | term value => cases member
      | wildcard stem quoted => cases member
      | equals field value => simp [spans, ofValue member]
      | range field operator value upper =>
        simp only [typeProblems] at member
        split at member
        · obtain ⟨bound, isBound, inBound⟩ := List.mem_flatMap.1 member
          have mapped := List.mem_map_of_mem (f := Literal.span) isBound
          exact .inl (List.mem_cons_of_mem _ (ofValue inBound ▸ mapped))
        · obtain rfl := List.mem_singleton.1 member
          exact .inr ⟨rfl, by simp [spans]⟩
      | member field values =>
        obtain ⟨value, isValue, inValue⟩ := List.mem_flatMap.1 member
        exact .inl (List.mem_cons_of_mem _ (List.mem_map.2 ⟨value, isValue, (ofValue inValue).symm⟩))

/-- If the parts of a clause stand inside it and take up room, all that is wrong with it is reported
inside it. -/
theorem beginsIn_of_problems {schema : Schema}
    (nested : ∀ part ∈ clause.spans, part.Within span ∧ 0 < part.length)
    (member : d ∈ (Tree.leaf span clause).structuralProblems ++
      (Tree.leaf span clause).schemaProblems schema) : d.span.BeginsIn span := by
  have ofPart (isPart : d.span ∈ clause.spans) : d.span.BeginsIn span :=
    (nested _ isPart).1.beginsIn (nested _ isPart).2
  rcases List.mem_append.1 member with structural | schematic
  · apply ofPart
    apply span_mem_of_structuralProblems
    simpa [Tree.structuralProblems, Tree.leaves] using structural
  · have here : d ∈ clause.schemaProblems schema schema.names span := by
      unfold Tree.schemaProblems at schematic
      split at schematic
      · cases schematic
      · simpa [Tree.leaves] using schematic
    rcases span_mem_of_schemaProblems here with isPart | ⟨whole, parted⟩
    · exact ofPart isPart
    · obtain ⟨part, isPart⟩ := List.exists_mem_of_ne_nil _ parted
      obtain ⟨⟨starts, ends⟩, visible⟩ := nested part isPart
      rw [whole]
      refine ⟨Nat.le_refl _, ?_⟩
      unfold Span.stop at ends ⊢
      omega

end Clause

namespace Tree

/-- The clauses on fields from left to right, each as a tree of its own. -/
def onFields (tree : Tree) : List Tree :=
  (tree.leaves.filter fun leaf => leaf.2.field?.isSome).map fun leaf => .leaf leaf.1 leaf.2

variable {tree : Tree}

theorem mem_onFields {part : Tree} : part ∈ tree.onFields ↔
    ∃ span clause, (span, clause) ∈ tree.leaves ∧ clause.field?.isSome ∧ .leaf span clause = part := by
  simp [onFields, and_assoc]

theorem flatMap_onFields {f : Tree → List Diagnostic}
    (absent : ∀ span clause, clause.field? = none → f (.leaf span clause) = []) :
    tree.onFields.flatMap f = tree.leaves.flatMap fun leaf => f (.leaf leaf.1 leaf.2) := by
  unfold onFields
  induction tree.leaves with
  | nil => rfl
  | cons leaf leaves ih =>
    obtain ⟨span, clause⟩ := leaf
    cases named : clause.field? with
    | none => simp [named, absent span clause named, ih]
    | some field => simp [named, ih]

theorem structuralProblems_onFields :
    tree.structuralProblems = tree.onFields.flatMap structuralProblems := by
  rw [flatMap_onFields]
  · simp [structuralProblems, leaves]
  · intro span clause unnamed
    cases clause <;> simp_all [structuralProblems, leaves, Clause.structuralProblems, Clause.field?]

theorem schemaProblems_onFields (schema : Schema) :
    tree.schemaProblems schema = tree.onFields.flatMap (schemaProblems schema) := by
  rw [flatMap_onFields]
  · by_cases empty : schema.isEmpty = true <;> simp [schemaProblems, leaves, empty]
  · intro span clause unnamed
    simp [schemaProblems, leaves, Clause.schemaProblems, unnamed]

theorem Nested.onFields (nested : tree.Nested) :
    tree.onFields.Pairwise fun first second => first.span.stop ≤ second.span.position :=
  List.pairwise_map.2 (nested.leaves.2.filter _)

/-- The problems of a tree whose parts are nested are those of its clauses, one after another. -/
theorem Nested.problems (nested : tree.Nested)
    (visible : ∀ clause ∈ tree.formula.atoms, ∀ part ∈ clause.spans, 0 < part.length)
    (schema : Schema) : tree.problems schema = tree.onFields.flatMap (Tree.problems schema) := by
  unfold Tree.problems
  rw [structuralProblems_onFields, schemaProblems_onFields]
  apply mergeDiagnostics_flatMap nested.onFields
  intro part member d inPart
  obtain ⟨span, clause, isLeaf, _, rfl⟩ := mem_onFields.1 member
  apply Clause.beginsIn_of_problems _ inPart
  intro inner isPart
  have isAtom : clause ∈ tree.formula.atoms :=
    tree.atoms_formula ▸ List.mem_map.2 ⟨_, isLeaf, rfl⟩
  exact ⟨(nested.leaves.1 _ isLeaf).2 inner isPart, visible clause isAtom inner isPart⟩

end Tree

theorem Query.isOk_ofTree {schema : Schema} {tree : Tree} :
    (ofTree schema tree).isOk = true ↔ tree.problems schema = [] := by
  unfold ofTree
  split <;> simp_all [Except.isOk, Except.toBool]

/-- All that is wrong with the tree of a text is what is wrong with each of its clauses on fields when
it is taken alone, from left to right. The tree is accepted if and only if each clause is, and within
a clause a report against the schema is dropped only in favour of a structural one on the same
span. -/
theorem Tree.problems_clausewise {limit : DepthLimit} {input : String} {tree : Tree} (schema : Schema)
    (found : Tree.ofTokens limit (tokenize input) = .ok (some tree)) :
    tree.onFields.Pairwise (fun first second => first.span.stop ≤ second.span.position) ∧
    tree.problems schema = tree.onFields.flatMap (Tree.problems schema) ∧
    ((Query.ofTree schema tree).isOk = true ↔
      ∀ part ∈ tree.onFields, (Query.ofTree schema part).isOk = true) ∧
    ∀ part ∈ tree.onFields, ∀ d ∈ part.schemaProblems schema,
      (∃ taken ∈ part.structuralProblems, taken.span = d.span) ∨
        (part.problems schema).count d = (part.schemaProblems schema).count d := by
  obtain ⟨derivation, rfl, _, ordered, inside⟩ := Grammar.derived_of_tokenize found
  have nested := (Grammar.Closed.nested.disjunction derivation ordered).2
  have visible := derivation.spans_pos fun token member => (inside token member).2
  have clausewise := nested.problems visible schema
  refine ⟨nested.onFields, clausewise, ?_, ?_⟩
  · simp only [Query.isOk_ofTree]
    rw [clausewise, List.flatMap_eq_nil_iff]
  · intro part member d inPart
    by_cases taken : ∃ taken ∈ part.structuralProblems, taken.span = d.span
    · exact .inl taken
    · apply Or.inr
      apply count_mergeDiagnostics
      intro other isOther same
      exact taken ⟨other, isOther, same⟩

/-- A group makes the first clause wider; the schema has nothing new to say of `or` and `"2,3"`. -/
theorem Tree.problems_clausewise_mixed :
    let schema : Schema := ⟨[⟨"price", .number⟩, ⟨"tag", .string⟩]⟩
    ∃ tree, Tree.ofTokens none (tokenize "(tag:>b) or NOT (or:1 price:in(\"2,3\", 4) c)") =
        .ok (some tree) ∧
      tree.onFields.map Tree.span = [⟨0, 8⟩, ⟨17, 4⟩, ⟨22, 18⟩] ∧
      tree.structuralProblems.map Diagnostic.code = [.reservedWordAsField, .invalidInValue] ∧
      (tree.schemaProblems schema).map Diagnostic.code =
        [.typeMismatch, .unknownField, .typeMismatch] ∧
      tree.problems schema = tree.onFields.flatMap (Tree.problems schema) := by
  let tree : Tree := .join .or ⟨0, 43⟩ 5
    (.leaf ⟨0, 8⟩ (.range ⟨"tag", ⟨1, 3⟩⟩ (.bound .above) ⟨"b", .bare, ⟨6, 1⟩⟩ none))
    (.negation ⟨12, 31⟩ 4 (.join .and ⟨16, 27⟩ 3
      (.join .and ⟨17, 23⟩ 2
        (.leaf ⟨17, 4⟩ (.equals ⟨"or", ⟨17, 2⟩⟩ ⟨"1", .number, ⟨20, 1⟩⟩))
        (.leaf ⟨22, 18⟩ (.member ⟨"price", ⟨22, 5⟩⟩
          [⟨"2,3", .quoted, ⟨31, 5⟩⟩, ⟨"4", .number, ⟨38, 1⟩⟩])))
      (.leaf ⟨41, 1⟩ (.term "c"))))
  have found : Tree.ofTokens none (tokenize "(tag:>b) or NOT (or:1 price:in(\"2,3\", 4) c)") =
      .ok (some tree) := by decide +kernel
  exact ⟨tree, found, by decide +kernel, by decide +kernel, by decide +kernel,
    (Tree.problems_clausewise _ found).2.1⟩

end SearchBox
