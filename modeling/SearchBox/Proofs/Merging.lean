import Mathlib.Data.List.Basic
import SearchBox.Diagnostic.Merge

/-! Joining the structural diagnostics with those against the schema. The joined list is the one list
that loses nothing but what a structural diagnostic already says, has its entries in the order of their
positions, and keeps the entries of one position in the order in which they were found. -/

namespace SearchBox

section Sorting

variable {α : Type} {key : α → Nat}

/-- Two lists in the order of a key are equal if each key brings the same row in both. -/
theorem eq_of_filter_key_eq {first second : List α} (sorted : first.Pairwise (key · ≤ key ·))
    (sorted' : second.Pairwise (key · ≤ key ·))
    (same : ∀ k, first.filter (key · == k) = second.filter (key · == k)) : first = second := by
  induction first generalizing second with
  | nil =>
    cases second with
    | nil => rfl
    | cons b second => simpa using same (key b)
  | cons a first ih =>
    cases second with
    | nil => simpa using same (key a)
    | cons b second =>
      obtain ⟨least, rest⟩ := List.pairwise_cons.1 sorted
      obtain ⟨least', rest'⟩ := List.pairwise_cons.1 sorted'
      have below : key a ≤ key b := by
        have member : b ∈ (a :: first).filter (key · == key b) := by simp [same]
        rcases List.mem_cons.1 (List.mem_filter.1 member).1 with rfl | later
        · exact Nat.le_refl _
        · exact least b later
      have above : key b ≤ key a := by
        have member : a ∈ (b :: second).filter (key · == key a) := by simp [← same]
        rcases List.mem_cons.1 (List.mem_filter.1 member).1 with rfl | later
        · exact Nat.le_refl _
        · exact least' a later
      have level : key b = key a := Nat.le_antisymm above below
      obtain rfl : a = b := by
        have rows := same (key a)
        simp only [List.filter_cons, beq_self_eq_true, level, if_true, List.cons.injEq] at rows
        exact rows.1
      apply congrArg (a :: ·)
      apply ih rest rest'
      intro k
      by_cases here : key a = k
      · simpa [here] using same k
      · simpa [here] using same k

/-- Sorting by a key leaves the row of each key as it is. -/
theorem filter_key_mergeSort (list : List α) (k : Nat) :
    (list.mergeSort fun a b => decide (key a ≤ key b)).filter (key · == k) =
      list.filter (key · == k) := by
  have alike : (list.filter (key · == k)).Pairwise fun a b => decide (key a ≤ key b) = true := by
    apply List.pairwise_of_forall_mem_list
    intro a inA b inB
    simp only [List.mem_filter, beq_iff_eq] at inA inB
    simp [inA.2, inB.2]
  have kept := List.sublist_mergeSort (by simp; omega) (by simp; omega) alike
    List.filter_sublist
  have row := kept.filter (key · == k)
  rw [List.filter_filter] at row
  simp only [Bool.and_self] at row
  exact (row.eq_of_length ((List.mergeSort_perm list _).filter _).length_eq.symm).symm

theorem pairwise_key_mergeSort (list : List α) :
    (list.mergeSort fun a b => decide (key a ≤ key b)).Pairwise (key · ≤ key ·) := by
  have sorted : (list.mergeSort fun a b => decide (key a ≤ key b)).Pairwise
      fun a b => decide (key a ≤ key b) = true :=
    List.pairwise_mergeSort (by simp; omega) (by simp; omega) list
  simpa using sorted

end Sorting

/-- Whether one of the reports stands on the same span. -/
def Diagnostic.sharesSpan (reports : List Diagnostic) (d : Diagnostic) : Bool :=
  reports.any fun taken => decide (taken.span = d.span)

/-- The list joins the two others. An entry against the schema is left out if a structural one stands on
its span, and everything else is there as often as it was found. -/
structure IsMerge (structural schematic merged : List Diagnostic) : Prop where
  count : ∀ d, merged.count d =
    structural.count d + if d.sharesSpan structural then 0 else schematic.count d
  ascending : merged.Pairwise fun first second => first.span.position ≤ second.span.position
  /-- At each position the structural entries stand before the others, both as they were found. -/
  inOrder : ∀ position, (structural.filter (·.span.position == position) ++
    schematic.filter fun d => d.span.position == position && !d.sharesSpan structural).Sublist merged

section Merging

variable {reports structural schematic merged : List Diagnostic} {d : Diagnostic}

theorem Diagnostic.sharesSpan_of_mem (member : d ∈ reports) : d.sharesSpan reports = true :=
  List.any_eq_true.2 ⟨d, member, decide_eq_true rfl⟩

theorem filter_sharesSpan_self (reports : List Diagnostic) :
    reports.filter (·.sharesSpan reports) = reports :=
  List.filter_eq_self.2 fun _ => Diagnostic.sharesSpan_of_mem

theorem mem_mergeDiagnostics : d ∈ mergeDiagnostics structural schematic ↔
    d ∈ structural ∨ d ∈ schematic ∧ d.sharesSpan structural = false := by
  simp [mergeDiagnostics, Diagnostic.sharesSpan]

/-- Without a schema the structural problems are told, and no others. -/
theorem mem_mergeDiagnostics_nil : d ∈ mergeDiagnostics structural [] ↔ d ∈ structural := by
  simp [mem_mergeDiagnostics]

theorem mergeDiagnostics_eq (structural schematic : List Diagnostic) :
    mergeDiagnostics structural schematic =
      (structural ++ schematic.filter fun d => !d.sharesSpan structural).mergeSort
        fun first second => decide (first.span.position ≤ second.span.position) :=
  rfl

theorem pairwise_mergeDiagnostics : (mergeDiagnostics structural schematic).Pairwise
    fun first second => first.span.position ≤ second.span.position :=
  pairwise_key_mergeSort _

/-- Sorting leaves the reports of one position as they were joined, the structural ones in front. -/
theorem filter_position_mergeDiagnostics (position : Nat) :
    (mergeDiagnostics structural schematic).filter (·.span.position == position) =
      structural.filter (·.span.position == position) ++
        schematic.filter fun d => d.span.position == position && !d.sharesSpan structural := by
  rw [mergeDiagnostics_eq, filter_key_mergeSort, List.filter_append, List.filter_filter]

theorem count_mergeDiagnostics_eq (d : Diagnostic) :
    (mergeDiagnostics structural schematic).count d =
      structural.count d + if d.sharesSpan structural then 0 else schematic.count d := by
  rw [mergeDiagnostics_eq, (List.mergeSort_perm _ _).count_eq, List.count_append]
  congr 1
  by_cases shared : d.sharesSpan structural = true
  · rw [if_pos shared, List.count_eq_zero]
    simp [shared]
  · rw [if_neg shared]
    exact List.count_filter (by simpa using shared)

/-- A report against the schema is in the merged list as often as it was made, unless a structural one
has the same span. -/
theorem count_mergeDiagnostics (alone : ∀ taken ∈ structural, taken.span ≠ d.span) :
    (mergeDiagnostics structural schematic).count d = schematic.count d := by
  have fresh : structural.count d = 0 := by
    apply List.count_eq_zero.2
    intro member
    exact alone d member rfl
  have apart : d.sharesSpan structural = false := by simpa [Diagnostic.sharesSpan] using alone
  rw [count_mergeDiagnostics_eq, fresh, apart, Nat.zero_add]
  rfl

/-- What is told on the spans of structural problems are these problems, in the order that they have
alone. -/
theorem filter_mergeDiagnostics :
    (mergeDiagnostics structural schematic).filter (·.sharesSpan structural) =
      mergeDiagnostics structural [] := by
  apply eq_of_filter_key_eq (pairwise_mergeDiagnostics.filter _) pairwise_mergeDiagnostics
  intro k
  have kept : (structural.filter (·.span.position == k)).filter (·.sharesSpan structural) =
      structural.filter (·.span.position == k) := by
    rw [List.filter_comm, filter_sharesSpan_self]
  have dropped : (schematic.filter fun d => d.span.position == k && !d.sharesSpan structural).filter
      (·.sharesSpan structural) = [] := by
    apply List.filter_eq_nil_iff.2
    intro d member shared
    simp [shared] at member
  rw [List.filter_comm, filter_position_mergeDiagnostics, filter_position_mergeDiagnostics,
    List.filter_append, kept, dropped, List.filter_nil]

theorem mergeDiagnostics_eq_nil :
    mergeDiagnostics structural schematic = [] ↔ structural = [] ∧ schematic = [] := by
  rw [mergeDiagnostics, ← List.length_eq_zero_iff, List.length_mergeSort, List.length_eq_zero_iff,
    List.append_eq_nil_iff]
  constructor
  · rintro ⟨rfl, news⟩
    exact ⟨rfl, by simpa [List.eq_nil_iff_forall_not_mem] using news⟩
  · rintro ⟨rfl, rfl⟩
    exact ⟨rfl, rfl⟩

/-- Joining again tells nothing new, if every report of the schema is on a span that is told of. -/
theorem mergeDiagnostics_eq_self
    (ascending : structural.Pairwise fun first second => first.span.position ≤ second.span.position)
    (told : ∀ d ∈ schematic, d.sharesSpan structural = true) :
    mergeDiagnostics structural schematic = structural := by
  have news : (schematic.filter fun d => !d.sharesSpan structural) = [] := by
    apply List.filter_eq_nil_iff.2
    intro d member
    simp [told d member]
  rw [mergeDiagnostics_eq, news, List.append_nil]
  apply List.mergeSort_of_pairwise
  simpa using ascending

theorem sharesSpan_mergeDiagnostics (member : d ∈ schematic) :
    d.sharesSpan (mergeDiagnostics structural schematic) = true := by
  cases shared : d.sharesSpan structural with
  | false =>
    apply Diagnostic.sharesSpan_of_mem
    exact mem_mergeDiagnostics.2 (.inr ⟨member, shared⟩)
  | true =>
    obtain ⟨taken, isTaken, same⟩ := List.any_eq_true.1 shared
    exact List.any_eq_true.2 ⟨taken, mem_mergeDiagnostics.2 (.inl isTaken), same⟩

theorem isMerge_mergeDiagnostics :
    IsMerge structural schematic (mergeDiagnostics structural schematic) where
  count := count_mergeDiagnostics_eq
  ascending := pairwise_mergeDiagnostics
  inOrder position := by
    rw [← filter_position_mergeDiagnostics]
    exact List.filter_sublist

/-- Whatever joins the lists has the same entries as the joined list, so the row of a position, which
it holds in its order, is all that it has there. -/
theorem IsMerge.filter_position (joins : IsMerge structural schematic merged) (position : Nat) :
    merged.filter (·.span.position == position) =
      (mergeDiagnostics structural schematic).filter (·.span.position == position) := by
  have perm : merged.Perm (mergeDiagnostics structural schematic) := by
    apply List.perm_iff_count.2
    intro d
    rw [joins.count, count_mergeDiagnostics_eq]
  have row := joins.inOrder position
  rw [← filter_position_mergeDiagnostics] at row
  have inside := row.filter (·.span.position == position)
  rw [List.filter_filter] at inside
  simp only [Bool.and_self] at inside
  exact (inside.eq_of_length (perm.filter _).length_eq.symm).symm

theorem isMerge_iff : IsMerge structural schematic merged ↔
    merged = mergeDiagnostics structural schematic := by
  constructor
  · intro joins
    exact eq_of_filter_key_eq joins.ascending pairwise_mergeDiagnostics joins.filter_position
  · rintro rfl
    exact isMerge_mergeDiagnostics

end Merging

/-- The joined list is the only one that joins the two lists. It is empty only if both are, and to join
it once more with the list of the schema adds nothing. -/
theorem mergeDiagnostics_unique (structural schematic : List Diagnostic) :
    (∀ merged, IsMerge structural schematic merged ↔
      merged = mergeDiagnostics structural schematic) ∧
    (mergeDiagnostics structural schematic = [] ↔ structural = [] ∧ schematic = []) ∧
    mergeDiagnostics (mergeDiagnostics structural schematic) schematic =
      mergeDiagnostics structural schematic :=
  ⟨fun _ => isMerge_iff, mergeDiagnostics_eq_nil,
    mergeDiagnostics_eq_self pairwise_mergeDiagnostics fun _ => sharesSpan_mergeDiagnostics⟩

end SearchBox
