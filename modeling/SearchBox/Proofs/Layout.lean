import Mathlib
import SearchBox.Proofs.Grammar.Placement
import SearchBox.Proofs.Lexing.Layout
import SearchBox.Proofs.Validity

/-! Layout says nothing. A text laid out anew, with reserved words in other letter cases, is the same
query, or is refused for the same reasons in the same order. The positions of both texts have no map from
one to the other that is increasing everywhere, as a gap may become shorter; but both map into one
common scale, on which every token of either text begins and ends where its counterpart does. -/

namespace SearchBox

/-! The common scale: a position counts what stands in front of it in both texts. -/

/-- The place of a position on the scale, if `marks` are the pairs of positions that belong together. -/
def scale (marks : List (Nat × Nat)) (position : Nat) : Nat :=
  position + (marks.toFinset.filter fun mark => mark.1 ≤ position).sup Prod.snd

variable {marks : List (Nat × Nat)}

theorem scale_strictMono (marks : List (Nat × Nat)) : StrictMono (scale marks) := by
  intro position later before
  refine Nat.add_lt_add_of_lt_of_le before (Finset.sup_mono ?_)
  exact Finset.monotone_filter_right _ fun mark _ within => within.trans before.le

theorem scale_mark {mark : Nat × Nat} (member : mark ∈ marks)
    (together : ∀ other ∈ marks, other.1 ≤ mark.1 → other.2 ≤ mark.2) :
    scale marks mark.1 = mark.1 + mark.2 := by
  refine congrArg (mark.1 + ·) (Nat.le_antisymm ?_ ?_)
  · refine Finset.sup_le fun other inside => ?_
    obtain ⟨inside, within⟩ := Finset.mem_filter.1 inside
    exact together other (List.mem_toFinset.1 inside) within
  · exact Finset.le_sup (f := Prod.snd)
      (Finset.mem_filter.2 ⟨List.mem_toFinset.2 member, Nat.le_refl _⟩)

theorem Follows.trans {first second third : Nat × Nat} (one : Follows first second)
    (other : Follows second third) : Follows first third := by
  rcases one with rfl | ⟨forward, forward'⟩
  · exact other
  · rcases other with rfl | ⟨further, further'⟩
    · exact .inr ⟨forward, forward'⟩
    · exact .inr ⟨forward.trans further, forward'.trans further'⟩

instance : Trans Follows Follows Follows :=
  ⟨Follows.trans⟩

/-- Of marks that follow each other both parts are in the same order. -/
theorem le_iff_of_follows (chain : marks.IsChain Follows) :
    ∀ mark ∈ marks, ∀ other ∈ marks, mark.1 ≤ other.1 ↔ mark.2 ≤ other.2 := by
  have same {mark other : Nat × Nat} (follows : Follows mark other) :
      (mark.1 ≤ other.1 ↔ mark.2 ≤ other.2) ∧ (other.1 ≤ mark.1 ↔ other.2 ≤ mark.2) := by
    rcases follows with rfl | ⟨forward, forward'⟩
    · simp
    · omega
  intro mark member other member'
  exact List.Pairwise.forall_of_forall_of_flip (R := fun mark other => mark.1 ≤ other.1 ↔ mark.2 ≤ other.2)
    (fun _ _ => by simp) (chain.pairwise.imp fun follows => (same follows).1)
    (chain.pairwise.imp fun follows => (same follows).2) member member'

/-- Two positions that belong together have one place on the scale. -/
theorem scale_eq (chain : marks.IsChain Follows) {mark : Nat × Nat} (member : mark ∈ marks) :
    scale marks mark.1 = scale (marks.map Prod.swap) mark.2 := by
  have order := le_iff_of_follows chain
  have here := scale_mark member fun other inside => (order other inside mark member).1
  have swapped : mark.swap ∈ marks.map Prod.swap := List.mem_map_of_mem member
  have there := scale_mark swapped (by
    intro _ inside
    obtain ⟨other, member', rfl⟩ := List.mem_map.1 inside
    exact (order other member' mark member).2)
  rw [here, Nat.add_comm]
  exact there.symm

/-- Rows of tokens that are alike, with their ends in the same order, are one row on the scale. -/
theorem placed_scale {row row' : List Token} (alike : List.Forall₂ Token.Alike row row')
    (chain : (Token.marks row row').IsChain Follows) :
    row.map (Token.placed (scale (Token.marks row row'))) =
      row'.map (Token.placed (scale ((Token.marks row row').map Prod.swap))) := by
  obtain ⟨length, each⟩ := List.forall₂_iff_zip.1 alike
  have pairs : ∀ pair ∈ row.zip row', pair.1.placed (scale (Token.marks row row')) =
      pair.2.placed (scale ((Token.marks row row').map Prod.swap)) := by
    rintro ⟨token, token'⟩ member
    have marked (mark : Nat × Nat) (isMark : mark ∈ [(token.span.position, token'.span.position),
        (token.span.stop, token'.span.stop)]) : mark ∈ Token.marks row row' :=
      List.mem_flatMap.2 ⟨(token, token'), member, isMark⟩
    have start := scale_eq chain (marked _ List.mem_cons_self)
    have stop := scale_eq chain (marked _ (List.mem_cons_of_mem _ List.mem_cons_self))
    obtain ⟨kind, text⟩ := each member
    have shown : token'.shown = token.shown := by
      unfold Token.shown
      rw [kind]
      split
      · rfl
      · next unreserved => exact text unreserved
    simp only [Token.placed, Span.placed, start, stop, kind, shown]
  calc row.map (Token.placed (scale (Token.marks row row')))
      = (row.zip row').map fun pair => pair.1.placed (scale (Token.marks row row')) := by
        rw [← Function.comp_def (Token.placed _) Prod.fst, ← List.map_map,
          List.map_fst_zip (Nat.le_of_eq length)]
    _ = (row.zip row').map fun pair =>
          pair.2.placed (scale ((Token.marks row row').map Prod.swap)) := List.map_congr_left pairs
    _ = row'.map (Token.placed (scale ((Token.marks row row').map Prod.swap))) := by
        rw [← Function.comp_def (Token.placed _) Prod.snd, ← List.map_map,
          List.map_snd_zip (Nat.le_of_eq length.symm)]

namespace Query

/-- What becomes of a row of tokens. -/
def ofTokens (limit : DepthLimit) (schema : Schema) (tokens : List Token) :
    Except QueryError Query :=
  match Tree.ofTokens limit tokens with
  | .error diagnostic => .error ⟨[diagnostic]⟩
  | .ok none => .ok ⟨none⟩
  | .ok (some tree) => ofTree schema tree

theorem codes_ofTree_placed {place : Nat → Nat} (increasing : StrictMono place) (schema : Schema)
    (tree : Tree) : (ofTree schema (tree.placed place)).mapError QueryError.codes =
      (ofTree schema tree).mapError QueryError.codes := by
  rw [ofTree, ofTree, Tree.problems_placed increasing, Tree.expression_placed]
  cases tree.problems schema with
  | nil => rfl
  | cons problem problems =>
    refine congrArg Except.error ?_
    show List.map _ (List.map _ _) = List.map _ _
    rw [List.map_map]
    rfl

/-- Tokens put in other places are the same query, or are refused for the same reasons. -/
theorem codes_ofTokens_placed {place : Nat → Nat} (increasing : StrictMono place) (limit : DepthLimit)
    (schema : Schema) (tokens : List Token) :
    (ofTokens limit schema (tokens.map (Token.placed place))).mapError QueryError.codes =
      (ofTokens limit schema tokens).mapError QueryError.codes := by
  have read := Tree.placed_ofTokens increasing limit tokens
  unfold ofTokens
  generalize Tree.ofTokens limit tokens = result at read ⊢
  generalize Tree.ofTokens limit (tokens.map (Token.placed place)) = result' at read ⊢
  cases read with
  | ok tree? =>
    cases tree? with
    | none => rfl
    | some tree => exact codes_ofTree_placed increasing schema tree
  | error same => exact congrArg (fun code => Except.error [code]) same

theorem codes_ofTokens_alike {row row' : List Token} (alike : List.Forall₂ Token.Alike row row')
    (chain : (Token.marks row row').IsChain Follows) (limit : DepthLimit) (schema : Schema) :
    (ofTokens limit schema row').mapError QueryError.codes =
      (ofTokens limit schema row).mapError QueryError.codes := by
  rw [← codes_ofTokens_placed (scale_strictMono (Token.marks row row')) limit schema row,
    placed_scale alike chain, codes_ofTokens_placed (scale_strictMono _)]

/-- A text laid out anew has tokens of the same kinds and, reserved words aside, with the same texts. It
is the same query, or it is refused for the same reasons in the same order. -/
theorem parse_relaid {input input' : String}
    (relaid : Relaid (tokenize input) input.toList input'.toList) :
    List.Forall₂ Token.Alike (tokenize input) (tokenize input') ∧
      ∀ (limits : Limits) (schema : Schema), byteWidth input.toList ≤ limits.maxInputLength →
        byteWidth input'.toList ≤ limits.maxInputLength →
        (parse limits schema input').mapError QueryError.codes =
          (parse limits schema input).mapError QueryError.codes := by
  obtain ⟨alike, chain⟩ := relaid.tokens_eq rfl 0
  refine ⟨alike, ?_⟩
  intro limits schema short short'
  rw [parse_of_short short, parse_of_short short']
  exact codes_ofTokens_alike alike chain.of_cons (some limits.maxDepth) schema

/-- Two blanks for one behind `in`, a blank of another width behind `and`: the reports on the value and on
the field name move by different distances and stay in their order. -/
theorem parse_relaid_reports :
    let input := "f:in (\"a,b\")AND q.r:1 "
    let input' := "f:IN\t\n(\"a,b\")and\u2003q.r:1\n"
    Relaid (tokenize input) input.toList input'.toList ∧
      (parse ⟨64, 8⟩ ⟨[]⟩ input').mapError QueryError.codes =
        .error [.invalidInValue, .invalidFieldChars] := by
  intro input input'
  have relaid : Relaid (tokenize input) input.toList input'.toList := by
    have ending : Relaid [Token.atEnd 22] [' '] ['\n'] := .ending (by decide)
    have whole :=
      @Relaid.token ⟨.fieldName, "f", ⟨0, 1⟩⟩ _ [] [] ['f'] _ _
        (by decide) (by decide) <|
      @Relaid.token ⟨.colon, ":", ⟨1, 1⟩⟩ _ [] [] [':'] _ _
        (by decide) (by decide) <|
      @Relaid.token ⟨.keyword .isIn, "in", ⟨2, 2⟩⟩ _ [] [] ['I', 'N'] _ _
        (by decide) (by decide) <|
      @Relaid.token ⟨.leftParen, "(", ⟨5, 1⟩⟩ _ [' '] ['\t', '\n'] ['('] _ _
        (by decide) (by decide) <|
      @Relaid.token ⟨.quoted, "\"a,b\"", ⟨6, 5⟩⟩ _ [] [] "\"a,b\"".toList _ _
        (by decide) (by decide) <|
      @Relaid.token ⟨.rightParen, ")", ⟨11, 1⟩⟩ _ [] [] [')'] _ _
        (by decide) (by decide) <|
      @Relaid.token ⟨.keyword .and, "AND", ⟨12, 3⟩⟩ _ [] [] "and".toList _ _
        (by decide) (by decide) <|
      @Relaid.token ⟨.fieldName, "q.r", ⟨16, 3⟩⟩ _ [' '] ['\u2003'] "q.r".toList _ _
        (by decide) (by decide) <|
      @Relaid.token ⟨.colon, ":", ⟨19, 1⟩⟩ _ [] [] [':'] _ _
        (by decide) (by decide) <|
      @Relaid.token ⟨.number, "1", ⟨20, 1⟩⟩ _ [] [] ['1'] _ _
        (by decide) (by decide) ending
    have written {row row' : List Token} {text text' other other' : List Char}
        (relaid : Relaid row text other) (rows : row = row') (texts : text = text')
        (others : other = other') : Relaid row' text' other' := by
      subst rows texts others
      exact relaid
    exact written whole (by decide +kernel) (by decide +kernel) (by decide +kernel)
  refine ⟨relaid, ?_⟩
  let tree : Tree := .join .and ⟨0, 21⟩ 2
    (.leaf ⟨0, 12⟩ (.member ⟨"f", ⟨0, 1⟩⟩ [⟨"a,b", .quoted, ⟨6, 5⟩⟩]))
    (.leaf ⟨16, 5⟩ (.equals ⟨"q.r", ⟨16, 3⟩⟩ ⟨"1", .number, ⟨20, 1⟩⟩))
  have found : Tree.ofTokens (some 8) (tokenize input) = .ok (some tree) := by decide +kernel
  have structural : tree.structuralProblems = [(Problem.commaInListValue "a,b").report ⟨6, 5⟩,
      (Problem.invalidFieldName "q.r").report ⟨16, 3⟩] := by decide +kernel
  rw [(parse_relaid relaid).2 ⟨64, 8⟩ ⟨[]⟩ (by decide) (by decide), parse_of_short (by decide),
    found]
  show (ofTree ⟨[]⟩ tree).mapError QueryError.codes = _
  rw [ofTree, Tree.problems, mergeDiagnostics, structural]
  simp [List.mergeSort, List.MergeSort.Internal.splitInTwo, Problem.report, Tree.schemaProblems,
    Schema.isEmpty, Except.mapError, QueryError.codes, Problem.code]

end Query

end SearchBox
