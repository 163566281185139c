import SearchBox.Proofs.Sql.Tokens

/-! Where something stands among the tokens of a condition. A piece that holds no parenthesis and
no connective stands inside the tokens of one predicate. -/

namespace SearchBox.Sql

section Pieces

variable {α : Type} {before piece after : List α}

/-- At a cut that is no part of the piece, the piece stands on one side. -/
theorem side_of_cut {left right : List α} {cut : α} (nonempty : piece ≠ []) (outside : cut ∉ piece)
    (same : left ++ cut :: right = before ++ (piece ++ after)) :
    (∃ later, left = before ++ (piece ++ later) ∧ after = later ++ cut :: right) ∨
      ∃ early, right = early ++ (piece ++ after) ∧ before = left ++ cut :: early := by
  rcases List.append_eq_append_iff.1 same with ⟨middle, rfl, rest⟩ | ⟨middle, rfl, rest⟩
  · cases middle with
    | nil =>
      obtain ⟨first, others, rfl⟩ := List.exists_cons_of_ne_nil nonempty
      exact (outside (by simp [(List.cons.inj rest).1])).elim
    | cons first early =>
      obtain ⟨rfl, rfl⟩ := List.cons.inj rest
      exact .inr ⟨early, rfl, rfl⟩
  · rcases List.append_eq_append_iff.1 rest with ⟨later, rfl, tail⟩ | ⟨later, rfl, tail⟩
    · exact .inl ⟨later, rfl, tail⟩
    · cases later with
      | nil => exact .inl ⟨[], by simp, by simpa using tail.symm⟩
      | cons first later =>
        obtain ⟨rfl, rfl⟩ := List.cons.inj tail
        exact (outside (by simp)).elim

/-- The piece stands inside the part, and what is in front of the part ends with a joint. -/
def Inside (joints before piece after part : List α) : Prop :=
  ∃ front early later back, part = early ++ (piece ++ later) ∧ before = front ++ early ∧
    after = later ++ back ∧ ∀ last, front.getLast? = some last → last ∈ joints

namespace Inside

variable {joints part : List α}

theorem whole (joints before piece after : List α) :
    Inside joints before piece after (before ++ (piece ++ after)) :=
  ⟨[], before, after, [], rfl, rfl, by simp, nofun⟩

theorem behind (inside : Inside joints before piece after part) {joint : α}
    (known : joint ∈ joints) (left : List α) :
    Inside joints (left ++ joint :: before) piece after part := by
  obtain ⟨front, early, later, back, same, rfl, rfl, ends⟩ := inside
  refine ⟨left ++ joint :: front, early, later, back, same, by simp, rfl, ?_⟩
  intro last found
  rw [List.getLast?_append_of_ne_nil _ (by simp), List.getLast?_cons] at found
  cases tail : front.getLast? with
  | none =>
    rw [tail] at found
    exact Option.some.inj found ▸ known
  | some other =>
    rw [tail] at found
    exact Option.some.inj found ▸ ends other tail

theorem ahead (inside : Inside joints before piece after part) (right : List α) :
    Inside joints before piece (after ++ right) part := by
  obtain ⟨front, early, later, back, same, rfl, rfl, ends⟩ := inside
  exact ⟨front, early, later, back ++ right, same, rfl, by simp, ends⟩

/-- A piece between two joined parts stands in one of them. -/
theorem of_join {left right : List α} {joint : α} (known : joint ∈ joints) (nonempty : piece ≠ [])
    (outside : joint ∉ piece) (same : left ++ joint :: right = before ++ (piece ++ after)) :
    (∃ after', left = before ++ (piece ++ after') ∧
      (∀ part, Inside joints before piece after' part → Inside joints before piece after part)) ∨
    ∃ before', right = before' ++ (piece ++ after) ∧
      ∀ part, Inside joints before' piece after part → Inside joints before piece after part := by
  rcases side_of_cut nonempty outside same with ⟨later, inLeft, rfl⟩ | ⟨early, inRight, rfl⟩
  · exact .inl ⟨later, inLeft, fun part inside => inside.ahead _⟩
  · exact .inr ⟨early, inRight, fun part inside => inside.behind known left⟩

/-- A piece behind a joint stands in what follows the joint. -/
theorem of_joint {joint : α} (known : joint ∈ joints) (nonempty : piece ≠ [])
    (outside : joint ∉ piece) {middle : List α}
    (same : joint :: middle = before ++ (piece ++ after)) :
    ∃ before', middle = before' ++ (piece ++ after) ∧
      ∀ part, Inside joints before' piece after part → Inside joints before piece after part := by
  rcases of_join known nonempty outside (show [] ++ joint :: middle = _ from same) with
    ⟨_, empty, _⟩ | inMiddle
  · exact (nonempty (by simp_all)).elim
  · exact inMiddle

/-- A piece between two joints at the ends stands in what they enclose. -/
theorem of_enclosed {opening closing : α} (opens : opening ∈ joints) (closes : closing ∈ joints)
    (nonempty : piece ≠ []) (noOpening : opening ∉ piece) (noClosing : closing ∉ piece)
    {middle : List α} (same : opening :: (middle ++ [closing]) = before ++ (piece ++ after)) :
    ∃ before' after', middle = before' ++ (piece ++ after') ∧
      ∀ part, Inside joints before' piece after' part → Inside joints before piece after part := by
  obtain ⟨before', inRest, lift⟩ := of_joint opens nonempty noOpening same
  rcases of_join closes nonempty noClosing inRest with ⟨after', inMiddle, lift'⟩ | ⟨_, empty, _⟩
  · exact ⟨before', after', inMiddle, fun part inside => lift part (lift' part inside)⟩
  · exact (nonempty (by simp_all)).elim

theorem of_intercalate {joint : α} (known : joint ∈ joints) (nonempty : piece ≠ [])
    (outside : joint ∉ piece) {parts : List (List α)}
    (same : [joint].intercalate parts = before ++ (piece ++ after)) :
    ∃ part ∈ parts, Inside joints before piece after part := by
  induction parts generalizing before with
  | nil =>
    have empty : before ++ (piece ++ after) = [] := same.symm
    exact (nonempty (by simp_all)).elim
  | cons part parts ih =>
    cases parts with
    | nil =>
      rw [List.intercalate_singleton] at same
      exact ⟨part, by simp, same ▸ whole joints before piece after⟩
    | cons next parts =>
      rw [List.intercalate_cons_cons, List.append_assoc, List.singleton_append] at same
      rcases of_join known nonempty outside same with ⟨later, inPart, lift⟩ | ⟨early, inRest, lift⟩
      · exact ⟨part, by simp, lift part (inPart ▸ whole joints before piece later)⟩
      · obtain ⟨found, member, inside⟩ := ih inRest
        exact ⟨found, by simp [member], lift found inside⟩

end Inside

end Pieces

namespace Condition

/-- The tokens between predicates. -/
def joints : List SqlToken :=
  [.symbol '(', .symbol ')', .word "OR".toList, .word "AND".toList, .word "NOT".toList]

variable {before piece after : List SqlToken}

theorem inside_parentheses (nonempty : piece ≠ []) (solid : ∀ joint ∈ joints, joint ∉ piece)
    {middle : List SqlToken}
    (same : .symbol '(' :: (middle ++ [.symbol ')']) = before ++ (piece ++ after)) :
    ∃ before' after', middle = before' ++ (piece ++ after') ∧
      ∀ part, Inside joints before' piece after' part → Inside joints before piece after part := by
  have opening : SqlToken.symbol '(' ∈ joints := by simp [joints]
  have closing : SqlToken.symbol ')' ∈ joints := by simp [joints]
  exact Inside.of_enclosed opening closing nonempty (solid _ opening) (solid _ closing) same

theorem inside_alternatives (nonempty : piece ≠ []) (solid : ∀ joint ∈ joints, joint ∉ piece)
    {alternatives : List (Predicate Nat)}
    (same : alternativesTokens alternatives = before ++ (piece ++ after)) :
    ∃ predicate ∈ alternatives, Inside joints before piece after predicate.tokens := by
  have several (parted : .symbol '(' :: ([SqlToken.word "OR".toList].intercalate
      (alternatives.map Predicate.tokens) ++ [.symbol ')']) = before ++ (piece ++ after)) :
      ∃ predicate ∈ alternatives, Inside joints before piece after predicate.tokens := by
    have joint : SqlToken.word "OR".toList ∈ joints := by simp [joints]
    obtain ⟨_, _, inItems, lift⟩ := inside_parentheses nonempty solid parted
    obtain ⟨part, member, inside⟩ := Inside.of_intercalate joint nonempty (solid _ joint) inItems
    obtain ⟨predicate, found, rfl⟩ := List.mem_map.1 member
    exact ⟨predicate, found, lift _ inside⟩
  match alternatives with
  | [] => exact several same
  | [single] =>
    have here : single.tokens = before ++ (piece ++ after) := same
    exact ⟨single, by simp, here ▸ Inside.whole joints before piece after⟩
  | _ :: _ :: _ => exact several same

/-- A piece without joints stands inside one predicate of the condition. -/
theorem inside_condition (nonempty : piece ≠ []) (solid : ∀ joint ∈ joints, joint ∉ piece)
    {condition : Condition Nat} (same : condition.tokens = before ++ (piece ++ after)) :
    ∃ alternatives ∈ condition.atoms, ∃ predicate ∈ alternatives,
      Inside joints before piece after predicate.tokens := by
  induction condition generalizing before after with
  | atom alternatives =>
    obtain ⟨predicate, member, inside⟩ := inside_alternatives nonempty solid same
    exact ⟨alternatives, by simp [Formula.atoms], predicate, member, inside⟩
  | join connective left right leftIh rightIh =>
    have joint : SqlToken.word connective.word.toList ∈ joints := by
      cases connective <;> simp [joints, Connective.word]
    have parted : .symbol '(' :: ((tokens left ++ .word connective.word.toList :: tokens right) ++
        [.symbol ')']) = before ++ (piece ++ after) := by
      rw [List.append_assoc]
      exact same
    obtain ⟨_, _, inMiddle, lift⟩ := inside_parentheses nonempty solid parted
    rcases Inside.of_join joint nonempty (solid _ joint) inMiddle with
      ⟨_, inLeft, lift'⟩ | ⟨_, inRight, lift'⟩
    · obtain ⟨alternatives, member, predicate, found, inside⟩ := leftIh inLeft
      exact ⟨alternatives, List.mem_append_left _ member, predicate, found, lift _ (lift' _ inside)⟩
    · obtain ⟨alternatives, member, predicate, found, inside⟩ := rightIh inRight
      exact ⟨alternatives, List.mem_append_right _ member, predicate, found, lift _ (lift' _ inside)⟩
  | negation inner ih =>
    have negation : SqlToken.word "NOT".toList ∈ joints := by simp [joints]
    have parted : .word "NOT".toList :: (.symbol '(' :: (tokens inner ++ [.symbol ')'])) =
        before ++ (piece ++ after) := same
    obtain ⟨_, inRest, lift⟩ := Inside.of_joint negation nonempty (solid _ negation) parted
    obtain ⟨_, _, inInner, lift'⟩ := inside_parentheses nonempty solid inRest
    obtain ⟨alternatives, member, predicate, found, inside⟩ := ih inInner
    exact ⟨alternatives, member, predicate, found, lift _ (lift' _ inside)⟩

end Condition

end SearchBox.Sql
