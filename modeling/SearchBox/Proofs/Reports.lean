import SearchBox.Proofs.Diagnostics
import SearchBox.Proofs.Grammar.Extents
import SearchBox.Proofs.Grammar.Parts
import SearchBox.Proofs.Grammar.Viability

/-! What a query is refused with. A problem that stops the reading comes alone and owes nothing to the
schema; all others are told in the order of the text. Except for a text that is too long, every report
runs from the start of a token to the end of one, so it covers a part of the text between two
characters. -/

namespace SearchBox

/-- The position lies between two characters of the text, or at one of its ends. -/
def IsBoundary (position : Nat) (text : List Char) : Prop :=
  ∃ before after, text = before ++ after ∧ byteWidth before = position

namespace Span

variable {span : Span} {part text : List Char}

theorem Covers.stop_le (covers : span.Covers part text) : span.stop ≤ byteWidth text := by
  obtain ⟨before, after, rfl, starts, width⟩ := covers
  simp only [byteWidth_append, stop]
  omega

theorem Covers.isBoundary_position (covers : span.Covers part text) :
    IsBoundary span.position text := by
  obtain ⟨before, after, same, starts, _⟩ := covers
  exact ⟨before, part ++ after, same, starts⟩

theorem Covers.isBoundary_stop (covers : span.Covers part text) : IsBoundary span.stop text := by
  obtain ⟨before, after, same, starts, width⟩ := covers
  exact ⟨before ++ part, after, by rw [same, List.append_assoc],
    by rw [byteWidth_append, starts, width, stop]⟩

/-- What stands between two boundaries is a part of the text. -/
theorem exists_covers_upTo {start stop : Nat} (starts : IsBoundary start text)
    (stops : IsBoundary stop text) (forward : start ≤ stop) :
    ∃ part, (upTo start stop).Covers part text := by
  obtain ⟨before, rest, rfl, rfl⟩ := starts
  obtain ⟨longer, after, same, rfl⟩ := stops
  rcases List.append_eq_append_iff.1 same with ⟨part, rfl, rfl⟩ | ⟨part, rfl, rfl⟩
  · refine ⟨part, before, after, rfl, rfl, ?_⟩
    rw [upTo, byteWidth_append, Nat.add_sub_cancel_left]
  · -- The second boundary comes no earlier, so nothing stands between the two.
    rw [byteWidth_append] at forward
    have nothing : part = [] := by
      by_contra visible
      have wide := byteWidth_pos visible
      omega
    subst nothing
    refine ⟨[], longer, rest, by simp, by simp [upTo], ?_⟩
    simp [upTo, byteWidth]

theorem Encloses.between {tokens : List Token} (encloses : span.Encloses tokens) :
    span.Between tokens := by
  obtain ⟨⟨first, head, starts⟩, last, tail, ends⟩ := encloses
  refine ⟨first, List.mem_of_head? head, last, List.mem_of_getLast? tail, ?_, ?_⟩
  · rw [starts, ends]
    exact span.position_le_stop
  · rw [starts, ends, upTo_position_stop]

end Span

namespace Lexer

/-- Tokens begin and end between characters. -/
theorem isBoundary_of_mem {input : String} {token : Token} (member : token ∈ tokenize input) :
    IsBoundary token.span.position input.toList ∧ IsBoundary token.span.stop input.toList := by
  have tiles := tiles_tokenize input
  by_cases running : token.kind = .endOfInput
  · obtain ⟨body, same, inside⟩ := tiles.ends
    rw [same] at member
    rcases List.mem_append.1 member with inBody | isLast
    · exact (inside token inBody running).elim
    · have atEnd : IsBoundary (byteWidth input.toList) input.toList :=
        ⟨input.toList, [], by simp, rfl⟩
      rw [List.mem_singleton.1 isLast, Nat.zero_add]
      exact ⟨atEnd, atEnd⟩
  · obtain ⟨_, before, after, same, starts, width⟩ := tiles.covers token member running
    rw [Nat.zero_add] at starts
    have covers : token.span.Covers token.text.toList input.toList :=
      ⟨before, after, same, starts, width⟩
    exact ⟨covers.isBoundary_position, covers.isBoundary_stop⟩

theorem exists_covers_of_between {input : String} {span : Span}
    (between : span.Between (tokenize input)) : ∃ part, span.Covers part input.toList := by
  obtain ⟨first, inFirst, last, inLast, forward, rfl⟩ := between
  exact Span.exists_covers_upTo (isBoundary_of_mem inFirst).1 (isBoundary_of_mem inLast).2 forward

theorem stream_tokenize (input : String) : Token.Stream (tokenize input) := by
  have tiles := tiles_tokenize input
  obtain ⟨body, same, inside⟩ := tiles.ends
  exact ⟨⟨body, _, same, rfl, rfl, inside⟩, Token.InOrder.startInOrder tiles.ordered.2⟩

/-- A problem that ends the reading of the tokens of a text is reported from token to token. -/
theorem between_of_refused {limit : DepthLimit} {input : String} {diagnostic : Diagnostic}
    (refused : Tree.ofTokens limit (tokenize input) = .error diagnostic) :
    diagnostic.code.isSyntax = true ∧ diagnostic.span.Between (tokenize input) := by
  have stream := stream_tokenize input
  obtain ⟨before, token, after, stack, stage, row, walk, halts, _⟩ :=
    Parser.exists_walk_of_refused stream.ended refused
  rw [row] at stream ⊢
  have member : token ∈ before ++ token :: after := by simp
  have flat := stream.flat member
  have ordered : Token.StartInOrder ((before ++ [token]) ++ after) := by
    simpa using stream.ordered
  obtain ⟨fatal, between⟩ := walk.between_of_halts halts flat (List.pairwise_append.1 ordered).1
  refine ⟨fatal, between.mono ?_⟩
  intro other inFront
  simp only [List.mem_append, List.mem_cons] at inFront ⊢
  tauto

end Lexer

namespace Tree

theorem leaf_mem_subtrees {tree : Tree} {span : Span} {clause : Clause FieldName Literal}
    (member : (span, clause) ∈ tree.leaves) : .leaf span clause ∈ tree.subtrees := by
  induction tree with
  | leaf _ _ =>
    cases List.mem_singleton.1 member
    exact List.mem_singleton.2 rfl
  | join _ _ _ left right leftIh rightIh =>
    apply List.mem_cons_of_mem
    rcases List.mem_append.1 member with inLeft | inRight
    · exact List.mem_append_left _ (leftIh inLeft)
    · exact List.mem_append_right _ (rightIh inRight)
  | negation _ _ inner ih => exact List.mem_cons_of_mem _ (ih member)

/-- A problem of a tree is reported on a clause or on a part of one. -/
theorem exists_leaf_of_problem {schema : Schema} {tree : Tree} {diagnostic : Diagnostic}
    (member : diagnostic ∈ tree.problems schema) : ∃ span clause, (span, clause) ∈ tree.leaves ∧
      (diagnostic.span ∈ clause.spans ∨ diagnostic.span = span) := by
  rcases mem_mergeDiagnostics.1 member with structural | ⟨schematic, _⟩
  · obtain ⟨⟨span, clause⟩, isLeaf, inClause⟩ := List.mem_flatMap.1 structural
    exact ⟨span, clause, isLeaf, .inl (Clause.span_mem_of_structuralProblems inClause)⟩
  · unfold schemaProblems at schematic
    split at schematic
    · cases schematic
    · obtain ⟨⟨span, clause⟩, isLeaf, inClause⟩ := List.mem_flatMap.1 schematic
      refine ⟨span, clause, isLeaf, ?_⟩
      rcases Clause.span_mem_of_schemaProblems inClause with isPart | ⟨whole, _⟩
      · exact .inl isPart
      · exact .inr whole

end Tree

/-- Clauses and their parts stand from token to token. -/
theorem Grammar.Disjunction.between_leaves (derivation : Disjunction)
    (ordered : Token.InOrder derivation.tokens) {span : Span} {clause : Clause FieldName Literal}
    (member : (span, clause) ∈ derivation.tree.leaves) :
    span.Between derivation.tokens ∧ ∀ inner ∈ clause.spans, inner.Between derivation.tokens := by
  constructor
  · obtain ⟨before, part, after, row, made, _⟩ :=
      derivation.parted _ (Tree.leaf_mem_subtrees member)
    rw [row] at ordered ⊢
    have encloses := part.encloses ordered.middle
    rw [made] at encloses
    apply encloses.between.mono
    intro token inPart
    exact List.mem_append_right _ (List.mem_append_left _ inPart)
  · have isAtom : clause ∈ derivation.tree.formula.atoms :=
      derivation.tree.atoms_formula ▸ List.mem_map.2 ⟨_, member, rfl⟩
    apply derivation.forall_clauses (fun clause => ∀ inner ∈ clause.spans,
      inner.Between derivation.tokens) (· ∈ derivation.tokens) _ (fun _ => id) clause isAtom
    intro leaf inRow clause isClause inner isPart
    obtain ⟨token, inLeaf, rfl⟩ := leaf.spans clause isClause inner isPart
    exact Span.between_of_mem (inRow token inLeaf)

theorem Tree.between_of_problem {limit : DepthLimit} {schema : Schema} {input : String} {tree : Tree}
    {diagnostic : Diagnostic} (found : Tree.ofTokens limit (tokenize input) = .ok (some tree))
    (member : diagnostic ∈ tree.problems schema) : diagnostic.span.Between (tokenize input) := by
  obtain ⟨derivation, rfl, row, ordered, _⟩ := Grammar.derived_of_tokenize found
  obtain ⟨span, clause, isLeaf, place⟩ := exists_leaf_of_problem member
  obtain ⟨whole, parts⟩ := derivation.between_leaves ordered isLeaf
  have between : diagnostic.span.Between derivation.tokens := by
    rcases place with isPart | same
    · exact parts _ isPart
    · exact same ▸ whole
  apply between.mono
  intro token inRow
  rw [row]
  exact List.mem_append_left _ inRow

namespace Query

variable {limits : Limits} {schema : Schema} {input : String}

/-- The report on a text that is too long, which is about all behind the limit. -/
def excess (limits : Limits) (input : String) : Diagnostic :=
  (Problem.inputTooLong (byteWidth input.toList) limits.maxInputLength).report
    ⟨limits.maxInputLength, byteWidth input.toList - limits.maxInputLength⟩

theorem parse_of_long (long : limits.maxInputLength < byteWidth input.toList) :
    parse limits schema input = .error ⟨[excess limits input]⟩ := by
  have checked : checkLength limits input = .error ⟨[excess limits input]⟩ :=
    if_neg (Nat.not_le_of_lt long)
  rw [parse, checked]
  rfl

/-- What becomes of a text, with whatever schema it is read. -/
inductive Outcome (limits : Limits) (input : String) : Prop where
  | tooLong (long : limits.maxInputLength < byteWidth input.toList)
      (always : ∀ schema, parse limits schema input = .error ⟨[excess limits input]⟩)
  | refused (diagnostic : Diagnostic) (short : byteWidth input.toList ≤ limits.maxInputLength)
      (found : Tree.ofTokens (some limits.maxDepth) (tokenize input) = .error diagnostic)
      (always : ∀ schema, parse limits schema input = .error ⟨[diagnostic]⟩)
  | blank (always : ∀ schema, parse limits schema input = .ok ⟨none⟩)
  | read (tree : Tree) (short : byteWidth input.toList ≤ limits.maxInputLength)
      (found : Tree.ofTokens (some limits.maxDepth) (tokenize input) = .ok (some tree))
      (always : ∀ schema, parse limits schema input = ofTree schema tree)

theorem outcome (limits : Limits) (input : String) : Outcome limits input := by
  by_cases short : byteWidth input.toList ≤ limits.maxInputLength
  · have always (schema : Schema) := @parse_of_short limits schema input short
    cases found : Tree.ofTokens (some limits.maxDepth) (tokenize input) with
    | error diagnostic => exact .refused diagnostic short found fun schema => by rw [always, found]
    | ok tree? =>
      cases tree? with
      | none => exact .blank fun schema => by rw [always, found]
      | some tree => exact .read tree short found fun schema => by rw [always, found]
  · have long := Nat.lt_of_not_le short
    exact .tooLong long fun _ => parse_of_long long

theorem ofTree_eq_error {tree : Tree} {error : QueryError} (refused : ofTree schema tree = .error error) :
    error = ⟨tree.problems schema⟩ ∧ tree.problems schema ≠ [] := by
  unfold ofTree at refused
  split at refused
  · cases refused
  · next dirty =>
    cases refused
    exact ⟨rfl, dirty⟩

/-- A query is refused with at least one report. They come in the order of their positions and end
within the text. A report that stops the reading is the only one, and with any other schema the query
is refused with the same. -/
theorem parse_error_wellFormed {error : QueryError} (refused : parse limits schema input = .error error) :
    error.diagnostics ≠ [] ∧
      error.diagnostics.Pairwise (fun first second => first.span.position ≤ second.span.position) ∧
      (∀ diagnostic ∈ error.diagnostics, diagnostic.span.stop ≤ byteWidth input.toList) ∧
      ∀ diagnostic ∈ error.diagnostics, diagnostic.code.isSyntax = true →
        error.diagnostics = [diagnostic] ∧ ∀ other, parse limits other input = .error error := by
  have single {diagnostic : Diagnostic} (inside : diagnostic.span.stop ≤ byteWidth input.toList)
      (always : ∀ schema, parse limits schema input = .error ⟨[diagnostic]⟩) :
      [diagnostic] ≠ [] ∧
        [diagnostic].Pairwise (fun first second => first.span.position ≤ second.span.position) ∧
        (∀ other ∈ [diagnostic], other.span.stop ≤ byteWidth input.toList) ∧
        ∀ other ∈ [diagnostic], other.code.isSyntax = true → [diagnostic] = [other] ∧
          ∀ schema, parse limits schema input = .error ⟨[diagnostic]⟩ := by
    refine ⟨nofun, List.pairwise_singleton _ _, List.forall_mem_singleton.2 inside, ?_⟩
    exact List.forall_mem_singleton.2 fun _ => ⟨rfl, always⟩
  cases outcome limits input with
  | tooLong long always =>
    rw [always] at refused
    cases refused
    apply single _ always
    show limits.maxInputLength + (byteWidth input.toList - limits.maxInputLength) ≤ _
    omega
  | refused diagnostic _ found always =>
    rw [always] at refused
    cases refused
    obtain ⟨part, covers⟩ :=
      Lexer.exists_covers_of_between (Lexer.between_of_refused found).2
    exact single covers.stop_le always
  | blank always =>
    rw [always] at refused
    cases refused
  | read tree _ found always =>
    rw [always] at refused
    obtain ⟨rfl, dirty⟩ := ofTree_eq_error refused
    refine ⟨dirty, pairwise_key_mergeSort _, ?_, ?_⟩
    · intro diagnostic member
      obtain ⟨part, covers⟩ :=
        Lexer.exists_covers_of_between (Tree.between_of_problem found member)
      exact covers.stop_le
    · intro diagnostic member fatal
      rw [tree.collected_problems schema diagnostic member] at fatal
      cases fatal

/-- Two reports, the first on a whole group, and a report that stops the reading. -/
theorem parse_error_wellFormed_group :
    let schema : Schema := ⟨[⟨"tag", .string⟩]⟩
    let error : QueryError := ⟨[(Problem.unorderedRange ">" .string "tag").report ⟨0, 8⟩,
      (Problem.invalidFieldName "é").report ⟨9, 2⟩]⟩
    let fatal : QueryError := ⟨[(Problem.emptyList "é").report ⟨5, 3⟩]⟩
    parse ⟨64, 8⟩ schema "(tag:>b) é:1" = .error error ∧
      (∀ diagnostic ∈ error.diagnostics, diagnostic.span.stop ≤ 13) ∧
      parse ⟨64, 8⟩ schema "é:IN( ) x" = .error fatal ∧
      ∀ other, parse ⟨64, 8⟩ other "é:IN( ) x" = .error fatal := by
  intro schema error fatal
  let tree : Tree := .join .and ⟨0, 13⟩ 2
    (.leaf ⟨0, 8⟩ (.range ⟨"tag", ⟨1, 3⟩⟩ (.bound .above) ⟨"b", .bare, ⟨6, 1⟩⟩ none))
    (.leaf ⟨9, 4⟩ (.equals ⟨"é", ⟨9, 2⟩⟩ ⟨"1", .number, ⟨12, 1⟩⟩))
  have found : Tree.ofTokens (some 8) (tokenize "(tag:>b) é:1") = .ok (some tree) := by
    decide +kernel
  have structural : tree.structuralProblems = [(Problem.invalidFieldName "é").report ⟨9, 2⟩] := by
    decide +kernel
  have schematic : (tree.schemaProblems schema).filter (fun diagnostic =>
      !tree.structuralProblems.any fun taken => decide (taken.span = diagnostic.span)) =
      [(Problem.unorderedRange ">" .string "tag").report ⟨0, 8⟩] := by
    decide +kernel
  have refused : parse ⟨64, 8⟩ schema "(tag:>b) é:1" = .error error := by
    rw [parse_of_short (by decide), found]
    show ofTree schema tree = .error error
    rw [ofTree, Tree.problems, mergeDiagnostics, schematic, structural]
    simp [List.mergeSort, List.MergeSort.Internal.splitInTwo, Problem.report, error]
  have stopped : parse ⟨64, 8⟩ schema "é:IN( ) x" = .error fatal := by decide +kernel
  have alone := (parse_error_wellFormed stopped).2.2.2 _ List.mem_cons_self rfl
  exact ⟨refused, (parse_error_wellFormed refused).2.2.1, stopped, alone.2⟩

end Query

end SearchBox
