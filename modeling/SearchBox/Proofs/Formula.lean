import Mathlib.Data.List.Forall2
import SearchBox.Formula

/-! Formulas: their atoms, what a map does to them, and their text. -/

namespace SearchBox.Formula

variable {α β γ ε : Type}

@[simp] theorem atoms_map (f : α → β) (formula : Formula α) :
    (formula.map f).atoms = formula.atoms.map f := by
  induction formula with
  | atom a => rfl
  | join connective left right leftIh rightIh => simp [map, atoms, leftIh, rightIh]
  | negation inner ih => exact ih

theorem depth_pos (formula : Formula α) : 0 < formula.depth := by
  cases formula with
  | atom a => exact Nat.one_pos
  | join connective left right => exact Nat.lt_add_right _ Nat.one_pos
  | negation inner => exact Nat.lt_add_right _ Nat.one_pos

@[simp] theorem depth_map (f : α → β) (formula : Formula α) :
    (formula.map f).depth = formula.depth := by
  induction formula with
  | atom a => rfl
  | join connective left right leftIh rightIh => simp [map, depth, leftIh, rightIh]
  | negation inner ih => simp [map, depth, ih]

@[simp] theorem map_map (f : α → β) (g : β → γ) (formula : Formula α) :
    (formula.map f).map g = formula.map (g ∘ f) := by
  induction formula with
  | atom a => rfl
  | join connective left right leftIh rightIh => simp [map, leftIh, rightIh]
  | negation inner ih => simp [map, ih]

theorem map_congr_iff {f g : α → β} {formula : Formula α} :
    formula.map f = formula.map g ↔ ∀ a ∈ formula.atoms, f a = g a := by
  induction formula with
  | atom a => simp [map, atoms]
  | join connective left right leftIh rightIh =>
    simp only [map, atoms, join.injEq, true_and, leftIh, rightIh, List.mem_append, or_imp,
      forall_and]
  | negation inner ih => simp only [map, atoms, negation.injEq, ih]

theorem map_id (formula : Formula α) : formula.map id = formula := by
  induction formula with
  | atom a => rfl
  | join connective left right leftIh rightIh => rw [map, leftIh, rightIh]
  | negation inner ih => rw [map, ih]

/-- A map leaves a formula as it is only if it leaves every atom as it is. -/
theorem map_eq_self_iff {f : α → α} {formula : Formula α} :
    formula.map f = formula ↔ ∀ a ∈ formula.atoms, f a = a := by
  have whole : formula.map f = formula.map id ↔ ∀ a ∈ formula.atoms, f a = id a := map_congr_iff
  rwa [map_id] at whole

/-! Replacing every atom where each replacement can fail. -/

theorem forall_of_forall₂ {related : α → β → Prop} {holds : β → Prop} {as : List α} {bs : List β}
    (pairs : List.Forall₂ related as bs) (each : ∀ a ∈ as, ∀ b, related a b → holds b) :
    ∀ b ∈ bs, holds b := by
  induction pairs with
  | nil => nofun
  | cons here _ ih =>
    obtain ⟨first, later⟩ := List.forall_mem_cons.1 each
    exact List.forall_mem_cons.2 ⟨first _ here, ih later⟩

theorem mapExcept_atom_eq_ok {f : α → Except ε β} {a : α} {result : Formula β} :
    (atom a).mapExcept f = .ok result ↔ ∃ b, f a = .ok b ∧ atom b = result := by
  cases mapped : f a <;> simp [mapExcept, mapped, bind, Except.bind, pure, Except.pure]

theorem mapExcept_negation_eq_ok {f : α → Except ε β} {inner : Formula α} {result : Formula β} :
    (negation inner).mapExcept f = .ok result ↔
      ∃ inner', inner.mapExcept f = .ok inner' ∧ negation inner' = result := by
  cases mapped : inner.mapExcept f <;>
    simp [mapExcept, mapped, bind, Except.bind, pure, Except.pure]

theorem mapExcept_join_eq_ok {f : α → Except ε β} {connective : Connective} {left right : Formula α}
    {result : Formula β} : (join connective left right).mapExcept f = .ok result ↔
      ∃ left' right', left.mapExcept f = .ok left' ∧ right.mapExcept f = .ok right' ∧
        join connective left' right' = result := by
  cases onLeft : left.mapExcept f with
  | error failure => simp [mapExcept, onLeft, bind, Except.bind]
  | ok left' =>
    cases onRight : right.mapExcept f with
    | error failure => simp [mapExcept, onLeft, onRight, bind, Except.bind]
    | ok right' => simp [mapExcept, onLeft, onRight, bind, Except.bind, pure, Except.pure]

theorem mapExcept_atom_eq_error {f : α → Except ε β} {a : α} {failure : ε} :
    (atom a).mapExcept f = .error failure ↔ f a = .error failure := by
  cases mapped : f a <;> simp [mapExcept, mapped, bind, Except.bind, pure, Except.pure]

theorem mapExcept_negation_eq_error {f : α → Except ε β} {inner : Formula α} {failure : ε} :
    (negation inner).mapExcept f = .error failure ↔ inner.mapExcept f = .error failure := by
  cases mapped : inner.mapExcept f <;>
    simp [mapExcept, mapped, bind, Except.bind, pure, Except.pure]

theorem mapExcept_join_eq_error {f : α → Except ε β} {connective : Connective}
    {left right : Formula α} {failure : ε} :
    (join connective left right).mapExcept f = .error failure ↔
      left.mapExcept f = .error failure ∨
        (∃ left', left.mapExcept f = .ok left') ∧ right.mapExcept f = .error failure := by
  cases onLeft : left.mapExcept f with
  | error failure => simp [mapExcept, onLeft, bind, Except.bind]
  | ok left' =>
    cases onRight : right.mapExcept f with
    | error failure => simp [mapExcept, onLeft, onRight, bind, Except.bind]
    | ok right' => simp [mapExcept, onLeft, onRight, bind, Except.bind, pure, Except.pure]

/-- If a formula is mapped then every atom is, from left to right. -/
theorem forall₂_of_mapExcept {f : α → Except ε β} {formula : Formula α} {result : Formula β}
    (found : formula.mapExcept f = .ok result) :
    List.Forall₂ (fun a b => f a = .ok b) formula.atoms result.atoms := by
  induction formula generalizing result with
  | atom a =>
    obtain ⟨b, mapped, rfl⟩ := mapExcept_atom_eq_ok.1 found
    exact .cons mapped .nil
  | join connective left right leftIh rightIh =>
    obtain ⟨left', right', onLeft, onRight, rfl⟩ := mapExcept_join_eq_ok.1 found
    exact List.rel_append (leftIh onLeft) (rightIh onRight)
  | negation inner ih =>
    obtain ⟨inner', inside, rfl⟩ := mapExcept_negation_eq_ok.1 found
    have whole := ih inside
    exact whole

theorem forall_exists_of_mapExcept {f : α → Except ε β} {formula : Formula α} {result : Formula β}
    (found : formula.mapExcept f = .ok result) : ∀ a ∈ formula.atoms, ∃ b, f a = .ok b :=
  forall_of_forall₂ (forall₂_of_mapExcept found).flip fun b _ _ same => ⟨b, same⟩

/-- A formula with an atom that fails is not mapped. -/
theorem mapExcept_ne_ok {f : α → Except ε β} {formula : Formula α} {a : α} {failure : ε}
    (member : a ∈ formula.atoms) (failed : f a = .error failure) (result : Formula β) :
    formula.mapExcept f ≠ .ok result := by
  intro found
  obtain ⟨b, same⟩ := forall_exists_of_mapExcept found a member
  rw [failed] at same
  cases same

theorem exists_first_of_mapExcept {f : α → Except ε β} {formula : Formula α} {failure : ε}
    (failed : formula.mapExcept f = .error failure) :
    ∃ before a after, formula.atoms = before ++ a :: after ∧
      (∀ earlier ∈ before, ∃ b, f earlier = .ok b) ∧ f a = .error failure := by
  induction formula with
  | atom a => exact ⟨[], a, [], rfl, nofun, mapExcept_atom_eq_error.1 failed⟩
  | join connective left right leftIh rightIh =>
    rcases mapExcept_join_eq_error.1 failed with onLeft | ⟨⟨left', onLeft⟩, onRight⟩
    · obtain ⟨before, a, after, same, fine, here⟩ := leftIh onLeft
      exact ⟨before, a, after ++ right.atoms, by simp [atoms, same], fine, here⟩
    · obtain ⟨before, a, after, same, fine, here⟩ := rightIh onRight
      exact ⟨left.atoms ++ before, a, after, by simp [atoms, same],
        List.forall_mem_append.2 ⟨forall_exists_of_mapExcept onLeft, fine⟩, here⟩
  | negation inner ih => exact ih (mapExcept_negation_eq_error.1 failed)

/-- Of the two places where a list meets a property first, neither comes before the other. -/
theorem eq_of_first {holds : α → Prop} {before before' after after' : List α} {a a' : α}
    (same : before ++ a :: after = before' ++ a' :: after')
    (first : ∀ earlier ∈ before, ¬holds earlier) (here : holds a)
    (first' : ∀ earlier ∈ before', ¬holds earlier) (here' : holds a') : a = a' := by
  rcases List.append_eq_append_iff.1 same with ⟨between, rfl, rest⟩ | ⟨between, rfl, rest⟩
  · cases between with
    | nil => exact (List.cons.inj rest).1
    | cons next between =>
      obtain rfl := (List.cons.inj rest).1
      exact (first' a (by simp) here).elim
  · cases between with
    | nil => exact (List.cons.inj rest).1.symm
    | cons next between =>
      obtain rfl := (List.cons.inj rest).1
      exact (first a' (by simp) here').elim

/-- A formula fails as its leftmost atom does that fails. -/
theorem mapExcept_eq_error_iff {f : α → Except ε β} {formula : Formula α} {failure : ε} :
    formula.mapExcept f = .error failure ↔ ∃ before a after, formula.atoms = before ++ a :: after ∧
      (∀ earlier ∈ before, ∃ b, f earlier = .ok b) ∧ f a = .error failure := by
  refine ⟨exists_first_of_mapExcept, ?_⟩
  rintro ⟨before, a, after, same, fine, here⟩
  cases mapped : formula.mapExcept f with
  | ok result => exact (mapExcept_ne_ok (by simp [same]) here result mapped).elim
  | error other =>
    obtain ⟨before', a', after', same', fine', here'⟩ := exists_first_of_mapExcept mapped
    have passes {earlier : α} (ok : ∃ b, f earlier = .ok b) : ¬∃ other, f earlier = .error other := by
      rintro ⟨other, failed⟩
      obtain ⟨b, passed⟩ := ok
      rw [passed] at failed
      cases failed
    obtain rfl := eq_of_first (same.symm.trans same')
      (fun earlier member => passes (fine earlier member)) ⟨_, here⟩
      (fun earlier member => passes (fine' earlier member)) ⟨_, here'⟩
    rw [here] at here'
    rw [Except.error.inj here']

/-- Only an atom that fails makes a formula fail. -/
theorem exists_of_mapExcept {f : α → Except ε β} {formula : Formula α} {failure : ε}
    (failed : formula.mapExcept f = .error failure) : ∃ a ∈ formula.atoms, f a = .error failure := by
  obtain ⟨before, a, after, same, _, here⟩ := exists_first_of_mapExcept failed
  exact ⟨a, by simp [same], here⟩

/-- A formula is mapped exactly if each of its atoms is. -/
theorem exists_mapExcept_eq_ok {f : α → Except ε β} {formula : Formula α} :
    (∃ result, formula.mapExcept f = .ok result) ↔ ∀ a ∈ formula.atoms, ∃ b, f a = .ok b := by
  constructor
  · rintro ⟨result, found⟩
    exact forall_exists_of_mapExcept found
  · intro each
    cases mapped : formula.mapExcept f with
    | ok result => exact ⟨result, rfl⟩
    | error failure =>
      obtain ⟨a, member, failed⟩ := exists_of_mapExcept mapped
      obtain ⟨b, same⟩ := each a member
      rw [failed] at same
      cases same

theorem mapExcept_congr {f g : α → Except ε β} {formula : Formula α}
    (each : ∀ a ∈ formula.atoms, f a = g a) : formula.mapExcept f = formula.mapExcept g := by
  induction formula with
  | atom a => rw [mapExcept, mapExcept, each a (by simp [atoms])]
  | join connective left right leftIh rightIh =>
    rw [mapExcept, mapExcept, leftIh fun a member => each a (List.mem_append_left _ member),
      rightIh fun a member => each a (List.mem_append_right _ member)]
  | negation inner ih => rw [mapExcept, mapExcept, ih each]

theorem mapExcept_map (f : β → Except ε γ) (g : α → β) (formula : Formula α) :
    (formula.map g).mapExcept f = formula.mapExcept (f ∘ g) := by
  induction formula with
  | atom a => rfl
  | join connective left right leftIh rightIh => rw [map, mapExcept, leftIh, rightIh, mapExcept]
  | negation inner ih => rw [map, mapExcept, ih, mapExcept]

theorem map_mapExcept (f : α → Except ε β) (g : β → γ) (formula : Formula α) :
    (formula.mapExcept f).map (map g) = formula.mapExcept fun a => (f a).map g := by
  induction formula with
  | atom a =>
    cases mapped : f a <;>
      simp [mapExcept, mapped, bind, Except.bind, pure, Except.pure, Except.map, map]
  | join connective left right leftIh rightIh =>
    rw [mapExcept, mapExcept, ← leftIh, ← rightIh]
    cases left.mapExcept f <;> cases right.mapExcept f <;> rfl
  | negation inner ih =>
    rw [mapExcept, mapExcept, ← ih]
    cases inner.mapExcept f <;> rfl

/-- The same joins and negations, over atoms that are related in pairs. -/
inductive Forall₂ (related : α → β → Prop) : Formula α → Formula β → Prop where
  | atom {a b} (here : related a b) : Forall₂ related (atom a) (atom b)
  | join {left right left' right'} (connective : Connective)
      (onLeft : Forall₂ related left left') (onRight : Forall₂ related right right') :
      Forall₂ related (join connective left right) (join connective left' right')
  | negation {inner inner'} (inside : Forall₂ related inner inner') :
      Forall₂ related (negation inner) (negation inner')

theorem Forall₂.and {first second : α → β → Prop} {formula : Formula α} {formula' : Formula β}
    (one : Forall₂ first formula formula') (other : Forall₂ second formula formula') :
    Forall₂ (fun a b => first a b ∧ second a b) formula formula' := by
  induction one with
  | atom here =>
    cases other with
    | atom here' => exact .atom ⟨here, here'⟩
  | join connective _ _ leftIh rightIh =>
    cases other with
    | join _ onLeft onRight => exact .join connective (leftIh onLeft) (rightIh onRight)
  | negation _ ih =>
    cases other with
    | negation inside => exact .negation (ih inside)

/-- Formulas with atoms that are replaced alike are replaced alike. -/
theorem Forall₂.mapExcept_eq {related : α → β → Prop} {f : α → Except ε γ} {g : β → Except ε γ}
    {formula : Formula α} {formula' : Formula β} (pairs : Forall₂ related formula formula')
    (each : ∀ a b, related a b → f a = g b) : formula.mapExcept f = formula'.mapExcept g := by
  induction pairs with
  | atom here => rw [mapExcept, mapExcept, each _ _ here]
  | join connective _ _ leftIh rightIh => rw [mapExcept, mapExcept, leftIh, rightIh]
  | negation _ ih => rw [mapExcept, mapExcept, ih]

/-! Replacing every atom by a formula. -/

/-- The formula with a formula in the place of every atom. -/
def substitute? (f : α → Option (Formula β)) : Formula α → Option (Formula β)
  | atom a => f a
  | join connective left right => do
    return join connective (← left.substitute? f) (← right.substitute? f)
  | negation inner => do return negation (← inner.substitute? f)

theorem substitute?_join_eq_some {f : α → Option (Formula β)} {connective : Connective}
    {left right : Formula α} {result : Formula β} :
    (join connective left right).substitute? f = some result ↔
      ∃ left' right', left.substitute? f = some left' ∧ right.substitute? f = some right' ∧
        join connective left' right' = result := by
  simp [substitute?, Option.bind_eq_some_iff]

theorem substitute?_negation_eq_some {f : α → Option (Formula β)} {inner : Formula α}
    {result : Formula β} : (negation inner).substitute? f = some result ↔
      ∃ inner', inner.substitute? f = some inner' ∧ negation inner' = result := by
  simp [substitute?, Option.bind_eq_some_iff]

theorem substitute?_map (f : β → Option (Formula γ)) (g : α → β) (formula : Formula α) :
    (formula.map g).substitute? f = formula.substitute? (f ∘ g) := by
  induction formula with
  | atom a => rfl
  | join connective left right leftIh rightIh => rw [map, substitute?, leftIh, rightIh, substitute?]
  | negation inner ih => rw [map, substitute?, ih, substitute?]

theorem map_substitute? (f : α → Option (Formula β)) (g : β → γ) (formula : Formula α) :
    (formula.substitute? f).map (map g) = formula.substitute? fun a => (f a).map (map g) := by
  induction formula with
  | atom a => rfl
  | join connective left right leftIh rightIh =>
    rw [substitute?, substitute?, ← leftIh, ← rightIh]
    cases left.substitute? f <;> cases right.substitute? f <;> rfl
  | negation inner ih =>
    rw [substitute?, substitute?, ← ih]
    cases inner.substitute? f <;> rfl

/-- After one replacement another one finds what it would have found before, if it does for every
atom. -/
theorem substitute?_of_mapExcept {f : α → Except ε β} {g : α → Option (Formula γ)}
    {h : β → Option (Formula γ)} {formula : Formula α} {result : Formula β}
    (found : formula.mapExcept f = .ok result)
    (each : ∀ a ∈ formula.atoms, ∀ b, f a = .ok b → ∃ part, g a = some part ∧ h b = some part) :
    ∃ whole, formula.substitute? g = some whole ∧ result.substitute? h = some whole := by
  induction formula generalizing result with
  | atom a =>
    obtain ⟨b, mapped, rfl⟩ := mapExcept_atom_eq_ok.1 found
    exact each a (by simp [atoms]) b mapped
  | join connective left right leftIh rightIh =>
    obtain ⟨left', right', onLeft, onRight, rfl⟩ := mapExcept_join_eq_ok.1 found
    obtain ⟨inLeft, one, one'⟩ := leftIh onLeft fun a member =>
      each a (List.mem_append_left _ member)
    obtain ⟨inRight, other, other'⟩ := rightIh onRight fun a member =>
      each a (List.mem_append_right _ member)
    exact ⟨join connective inLeft inRight,
      substitute?_join_eq_some.2 ⟨inLeft, inRight, one, other, rfl⟩,
      substitute?_join_eq_some.2 ⟨inLeft, inRight, one', other', rfl⟩⟩
  | negation inner ih =>
    obtain ⟨inner', inside, rfl⟩ := mapExcept_negation_eq_ok.1 found
    obtain ⟨whole, one, one'⟩ := ih inside each
    exact ⟨negation whole, substitute?_negation_eq_some.2 ⟨whole, one, rfl⟩,
      substitute?_negation_eq_some.2 ⟨whole, one', rfl⟩⟩

/-- The disjunction of atoms, which leans to the left. -/
def anyOf (first : α) (others : List α) : Formula α :=
  others.foldl (fun left other => join .or left (atom other)) (atom first)

theorem map_anyOf (f : α → β) (first : α) (others : List α) :
    (anyOf first others).map f = anyOf (f first) (others.map f) := by
  have step (left : Formula α) : (others.foldl (fun left other => join .or left (atom other)) left).map f =
      (others.map f).foldl (fun left other => join .or left (atom other)) (left.map f) := by
    induction others generalizing left with
    | nil => rfl
    | cons other others ih => exact ih _
  exact step (atom first)

/-! The text of a formula. -/

theorem writeBefore_eq (writeAtom : α → List Char) (formula : Formula α) (rest : List Char) :
    formula.writeBefore writeAtom rest = formula.write writeAtom ++ rest := by
  unfold write
  induction formula generalizing rest with
  | atom a => simp [writeBefore]
  | join connective left right leftIh rightIh =>
    rw [writeBefore, leftIh, rightIh, writeBefore,
      leftIh (' ' :: (connective.word.toList ++ ' ' :: right.writeBefore writeAtom [')'])),
      rightIh [')']]
    simp
  | negation inner ih =>
    rw [writeBefore, ih, writeBefore, ih [')']]
    simp

theorem write_atom (writeAtom : α → List Char) (a : α) : (atom a).write writeAtom = writeAtom a :=
  List.append_nil _

theorem write_join (writeAtom : α → List Char) (connective : Connective) (left right : Formula α)
    (rest : List Char) : (join connective left right).write writeAtom ++ rest =
      '(' :: (left.write writeAtom ++ ' ' :: (connective.word.toList ++
        ' ' :: (right.write writeAtom ++ ')' :: rest))) := by
  rw [write, writeBefore, writeBefore_eq, writeBefore_eq]
  simp

theorem write_negation (writeAtom : α → List Char) (inner : Formula α) (rest : List Char) :
    (negation inner).write writeAtom ++ rest =
      "NOT".toList ++ ' ' :: '(' :: (inner.write writeAtom ++ ')' :: rest) := by
  rw [write, writeBefore, writeBefore_eq]
  simp

/-- The text of a formula depends on the texts of its atoms alone. -/
theorem write_map (writeAtom : β → List Char) (change : α → β) (formula : Formula α) :
    (formula.map change).write writeAtom = formula.write (writeAtom ∘ change) := by
  have before (rest : List Char) : (formula.map change).writeBefore writeAtom rest =
      formula.writeBefore (writeAtom ∘ change) rest := by
    induction formula generalizing rest with
    | atom a => rfl
    | join connective left right leftIh rightIh => rw [map, writeBefore, leftIh, rightIh, writeBefore]
    | negation inner ih => rw [map, writeBefore, ih, writeBefore]
  exact before []

end SearchBox.Formula
