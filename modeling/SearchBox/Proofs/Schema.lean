import Mathlib.Data.List.Nodup
import Mathlib.Data.List.Perm.Basic
import SearchBox.Schema

/-! What a schema says about names. A name in any case finds the last declaration of it, and the names
that count are those of the declarations that are found so. -/

namespace SearchBox.Schema

variable {schema schema' : Schema} {name : String} {declaration : Declaration}

/-- The schema has a declaration of the name, in any case. -/
def Declares (schema : Schema) (name : String) : Prop :=
  ∃ declaration ∈ schema.declarations, lowercase declaration.name = lowercase name

instance (schema : Schema) (name : String) : Decidable (schema.Declares name) :=
  inferInstanceAs (Decidable (∃ declaration ∈ schema.declarations,
    lowercase declaration.name = lowercase name))

/-- The name is one that counts, as it is written in its declaration. -/
def Names (schema : Schema) (name : String) : Prop :=
  ∃ declaration, schema.lookup? name = some declaration ∧ declaration.name = name

theorem lookup?_eq_none : schema.lookup? name = none ↔ ¬schema.Declares name := by
  unfold lookup? Declares
  simp [List.find?_eq_none]

theorem exists_lookup? : (∃ declaration, schema.lookup? name = some declaration) ↔
    schema.Declares name := by
  rw [← Option.ne_none_iff_exists', ne_eq, lookup?_eq_none, Classical.not_not]

theorem mem_of_lookup? (found : schema.lookup? name = some declaration) :
    declaration ∈ schema.declarations ∧ lowercase declaration.name = lowercase name := by
  unfold lookup? at found
  have same := List.find?_some found
  exact ⟨List.mem_reverse.1 (List.mem_of_find?_eq_some found), beq_iff_eq.1 same⟩

/-- The declaration that a name finds is found by its own name. -/
theorem lookup?_name (found : schema.lookup? name = some declaration) :
    schema.lookup? declaration.name = some declaration := by
  have same := (mem_of_lookup? found).2
  unfold lookup? at found ⊢
  rw [same]
  exact found

section LastOfEach

variable {α : Type} {entries : List (String × α)} {a : α}

/-- The values that are kept are those that are found from the end of the list. -/
theorem mem_lastOfEach : a ∈ lastOfEach entries ↔
    ∃ key, entries.reverse.find? (·.1 == key) = some (key, a) := by
  induction entries with
  | nil => simp [lastOfEach]
  | cons entry later ih =>
    obtain ⟨key, value⟩ := entry
    have front (wanted : String) : ((key, value) :: later).reverse.find? (·.1 == wanted) =
        (later.reverse.find? (·.1 == wanted)).or
          (if key = wanted then some (key, value) else none) := by
      rw [List.reverse_cons, List.find?_append]
      by_cases here : key = wanted <;> simp [here]
    simp only [front, Option.or_eq_some_iff, List.find?_eq_none]
    by_cases replaced : later.any (fun other => other.1 == key) = true
    · rw [lastOfEach, if_pos replaced, ih]
      obtain ⟨other, member, same⟩ := List.any_eq_true.1 replaced
      refine exists_congr fun wanted => ⟨.inl, ?_⟩
      rintro (found | ⟨missing, here⟩)
      · exact found
      · split at here
        · next same' =>
          subst same'
          exact (missing other (List.mem_reverse.2 member) same).elim
        · cases here
    · rw [lastOfEach, if_neg replaced, List.mem_cons, ih]
      constructor
      · rintro (rfl | ⟨wanted, found⟩)
        · refine ⟨key, .inr ⟨?_, if_pos rfl⟩⟩
          intro other member same
          exact replaced (List.any_eq_true.2 ⟨other, List.mem_reverse.1 member, same⟩)
        · exact ⟨wanted, .inl found⟩
      · rintro ⟨wanted, found | ⟨_, here⟩⟩
        · exact .inr ⟨wanted, found⟩
        · split at here
          · exact .inl (Prod.mk.inj (Option.some.inj here)).2.symm
          · cases here

theorem of_mem_lastOfEach (member : a ∈ lastOfEach entries) : ∃ entry ∈ entries, entry.2 = a := by
  obtain ⟨key, found⟩ := mem_lastOfEach.1 member
  exact ⟨_, List.mem_reverse.1 (List.mem_of_find?_eq_some found), rfl⟩

/-- No two of the values that are kept have one key. -/
theorem pairwise_lastOfEach {key : α → String} (keyed : ∀ entry ∈ entries, entry.1 = key entry.2) :
    (lastOfEach entries).Pairwise (key · ≠ key ·) := by
  induction entries with
  | nil => exact .nil
  | cons entry later ih =>
    obtain ⟨name, value⟩ := entry
    obtain ⟨here, keyed⟩ := List.forall_mem_cons.1 keyed
    rw [lastOfEach]
    split
    · exact ih keyed
    · next fresh =>
      refine List.pairwise_cons.2 ⟨?_, ih keyed⟩
      intro other member same
      obtain ⟨entry, inLater, rfl⟩ := of_mem_lastOfEach member
      have other : entry.1 = name := (keyed entry inLater).trans (same.symm.trans here.symm)
      simp only [List.any_eq_true, beq_iff_eq, not_exists, not_and] at fresh
      exact fresh entry inLater other

end LastOfEach

theorem mem_inForce : declaration ∈ schema.inForce ↔
    schema.lookup? declaration.name = some declaration := by
  rw [inForce, mem_lastOfEach, lookup?]
  simp only [← List.map_reverse, List.find?_map, Option.map_eq_some_iff, Prod.mk.injEq]
  constructor
  · rintro ⟨key, found, same, rfl, rfl⟩
    exact same
  · intro found
    exact ⟨_, _, found, rfl, rfl⟩

theorem nodup_inForce : schema.inForce.Nodup := by
  have distinct : schema.inForce.Pairwise
      (fun first second => lowercase first.name ≠ lowercase second.name) := by
    apply pairwise_lastOfEach
    intro entry member
    obtain ⟨declaration, _, rfl⟩ := List.mem_map.1 member
    rfl
  apply distinct.imp
  rintro first _ different rfl
  exact different rfl

theorem isEmpty_iff : schema.isEmpty = true ↔ ∀ name, schema.lookup? name = none := by
  rw [isEmpty, List.isEmpty_iff]
  constructor
  · intro none name
    rw [lookup?_eq_none, Declares, none]
    simp
  · intro none
    rw [List.eq_nil_iff_forall_not_mem]
    intro declaration member
    exact lookup?_eq_none.1 (none declaration.name) ⟨declaration, member, rfl⟩

theorem pairwise_mergeSort_names (names : List String) :
    (names.mergeSort fun first second => decide (first ≤ second)).Pairwise (· ≤ ·) := by
  have sorted : (names.mergeSort fun first second => decide (first ≤ second)).Pairwise
      fun first second => decide (first ≤ second) = true := by
    apply List.pairwise_mergeSort
    · intro first second third one other
      simp only [decide_eq_true_eq] at one other ⊢
      exact String.le_trans one other
    · intro first second
      simp [String.le_total]
  simpa using sorted

/-- However the declarations in force are listed, their names come out sorted the same. -/
theorem mergeSort_names {order : List Declaration} (perm : order.Perm schema.inForce) :
    (order.map Declaration.name).mergeSort (fun first second => decide (first ≤ second)) =
      schema.names := by
  apply List.Perm.eq_of_pairwise _ (pairwise_mergeSort_names _) (pairwise_mergeSort_names _)
  · exact (List.mergeSort_perm _ _).trans ((perm.map _).trans (List.mergeSort_perm _ _).symm)
  · intro first second _ _ one other
    exact String.le_antisymm one other

theorem mem_names : name ∈ schema.names ↔ schema.Names name := by
  simp only [names, List.mem_mergeSort, List.mem_map, mem_inForce]
  constructor
  · rintro ⟨declaration, found, rfl⟩
    exact ⟨declaration, found, rfl⟩
  · rintro ⟨declaration, found, rfl⟩
    exact ⟨declaration, found, rfl⟩

theorem pairwise_names : schema.names.Pairwise (· ≤ ·) :=
  pairwise_mergeSort_names _

/-- Two schemas that find the same declarations. -/
def Agrees (schema schema' : Schema) : Prop :=
  ∀ name, schema.lookup? name = schema'.lookup? name

section Agrees

variable (agrees : schema.Agrees schema')
include agrees

theorem Agrees.isEmpty_eq : schema.isEmpty = schema'.isEmpty := by
  rw [Bool.eq_iff_iff, isEmpty_iff, isEmpty_iff]
  exact forall_congr' fun name => by rw [agrees name]

theorem Agrees.names_eq : schema.names = schema'.names := by
  have perm : schema.inForce.Perm schema'.inForce := by
    rw [List.perm_ext_iff_of_nodup nodup_inForce nodup_inForce]
    intro declaration
    rw [mem_inForce, mem_inForce, agrees]
  exact mergeSort_names perm

end Agrees

/-- Of declarations with different names each is found. -/
theorem lookup?_eq_some_of_nodup
    (distinct : (schema.declarations.map fun declaration => lowercase declaration.name).Nodup)
    {name : String} : schema.lookup? name = some declaration ↔
      declaration ∈ schema.declarations ∧ lowercase declaration.name = lowercase name := by
  refine ⟨mem_of_lookup?, ?_⟩
  rintro ⟨member, same⟩
  obtain ⟨other, here⟩ := exists_lookup?.2 ⟨declaration, member, same⟩
  obtain ⟨member', same'⟩ := mem_of_lookup? here
  rw [here, List.inj_on_of_nodup_map distinct member' member (same'.trans same.symm)]

/-- Declarations of different names may come in any order. -/
theorem agrees_of_perm (perm : schema.declarations.Perm schema'.declarations)
    (distinct : (schema.declarations.map fun declaration => lowercase declaration.name).Nodup) :
    schema.Agrees schema' := by
  intro name
  apply Option.ext
  intro declaration
  have distinct' : (schema'.declarations.map fun declaration => lowercase declaration.name).Nodup :=
    (perm.map _).nodup_iff.1 distinct
  rw [lookup?_eq_some_of_nodup distinct, lookup?_eq_some_of_nodup distinct', perm.mem_iff]

end SearchBox.Schema
