import Mathlib.Data.List.Basic
import SearchBox.Proofs.Canonical.Reading

/-! Where canonical text goes wrong. An equals sign at the front of a value joins the symbol before
it, and from there on the symbols read are not the symbols written. -/

namespace SearchBox

/-- The lists agree up to a place where they differ. -/
def Diverges {α : Type} (first second : List α) : Prop :=
  ∃ common x y first' second', first = common ++ x :: first' ∧ second = common ++ y :: second' ∧ x ≠ y

namespace Diverges

variable {α : Type} {first second : List α}

theorem ne (diverges : Diverges first second) : first ≠ second := by
  obtain ⟨common, x, y, first', second', rfl, rfl, differ⟩ := diverges
  intro same
  exact differ (List.cons.inj (List.append_cancel_left same)).1

theorem append_both (front : List α) (diverges : Diverges first second) :
    Diverges (front ++ first) (front ++ second) := by
  obtain ⟨common, x, y, first', second', rfl, rfl, differ⟩ := diverges
  exact ⟨front ++ common, x, y, first', second', by simp, by simp, differ⟩

theorem append_second (later : List α) (diverges : Diverges first second) :
    Diverges first (second ++ later) := by
  obtain ⟨common, x, y, first', second', rfl, rfl, differ⟩ := diverges
  exact ⟨common, x, y, first', second' ++ later, rfl, by simp, differ⟩

end Diverges

namespace Clause

@[simp] theorem comparison?_map {φ ν φ' ν' : Type} (onField : φ → φ') (onValue : ν → ν')
    (clause : Clause φ ν) : (clause.map onField onValue).comparison? = clause.comparison? := by
  cases clause with
  | range field operator value upper => cases operator <;> rfl
  | _ => rfl

theorem comparison?_canonical {clause : Clause Field String} (shaped : clause.Shaped) :
    clause.canonical.comparison? = clause.comparison? := by
  cases clause with
  | range field operator value upper =>
    cases operator with
    | bound => rfl
    | between =>
      cases upper with
      | none => simp [Shaped] at shaped
      | some => rfl
  | _ => rfl

end Clause

/-- The symbols of a formula from left to right. -/
def Formula.comparisons {φ ν : Type} (formula : Formula (Clause φ ν)) : List Comparison :=
  formula.atoms.filterMap Clause.comparison?

theorem Formula.comparisons_map {φ ν φ' ν' : Type} {change : Clause φ ν → Clause φ' ν'}
    {formula : Formula (Clause φ ν)}
    (kept : ∀ clause ∈ formula.atoms, (change clause).comparison? = clause.comparison?) :
    (formula.map change).comparisons = formula.comparisons := by
  rw [comparisons, atoms_map, List.filterMap_map, comparisons]
  exact List.filterMap_congr kept

theorem Expression.comparisons_canonical {expression : Expression}
    (shaped : ∀ clause ∈ expression.atoms, clause.Shaped) :
    (Expression.plain (expression.map Clause.canonical)).comparisons =
      Formula.comparisons expression := by
  rw [plain, Formula.comparisons_map fun clause _ => clause.comparison?_map _ _,
    Formula.comparisons_map fun clause member => Clause.comparison?_canonical (shaped clause member)]

theorem Tree.comparisons_plain (tree : Tree) :
    tree.plain.comparisons = tree.formula.comparisons :=
  Formula.comparisons_map fun clause _ => clause.comparison?_map _ _

namespace Lexer

variable {context : LexicalContext} {rest : List Char}

/-- The symbols among the tokens still to come. -/
def comparisons (lexer : Lexer) : List Comparison :=
  lexer.tokens.filterMap Token.comparison?

/-- A symbol right behind the colon of a field is the first one. -/
theorem comparisons_onField {name : String} (valid : isFieldName name.toList = true) {c : Char}
    {text chars : List Char} {comparison : Comparison} (visible : isBlank c = false)
    (found : Lexeme.first c text = ⟨.fixed (.range (.bound comparison)), chars, rest⟩)
    (context : LexicalContext) (position : Nat) :
    ∃ later, comparisons ⟨name.toList ++ ':' :: c :: text, position, context, false⟩ =
      comparison :: later := by
  obtain ⟨field, colon, position₁, -, named⟩ :=
    tokens_field name (c :: text) valid context position
  obtain ⟨mark, position₂, marked⟩ :=
    tokens_mark visible found ((context.after .fieldName).after .colon) position₁
  rw [comparisons, named, marked]
  simp [Token.comparison?, field.property, colon.property, mark.property]

/-- A strict symbol with an equals sign behind it is read as the other one. -/
theorem comparisons_glued {clause : Clause Field String} (writable : clause.Writable)
    (glued : clause.Glued) (rest : List Char) (context : LexicalContext) (position : Nat) :
    Diverges (comparisons ⟨clause.write ++ rest, position, context, false⟩)
      clause.comparison?.toList := by
  cases clause with
  | range field operator value upper =>
    cases operator with
    | between => exact glued.elim
    | bound comparison =>
      obtain ⟨strict, equals⟩ := glued
      obtain ⟨text, starts⟩ : ∃ text, writeValue value = '=' :: text := by
        obtain ⟨c, text, same⟩ := List.exists_cons_of_ne_nil (writeValue_ne_nil value)
        rw [same] at equals
        exact ⟨text, by rw [same, Option.some.inj equals]⟩
      have whole : (Clause.range field (.bound comparison) value upper).write ++ rest =
          field.name.toList ++ ':' :: (comparison.symbol.toList ++ '=' :: (text ++ rest)) := by
        simp [Clause.write, writeRange, starts]
      rw [whole]
      rcases strict with rfl | rfl
      · obtain ⟨later, read⟩ := comparisons_onField writable (by decide)
          (Lexeme.first_atLeast (text ++ rest)) context position
        exact ⟨[], .atLeast, .above, later, [], read, rfl, by decide⟩
      · obtain ⟨later, read⟩ := comparisons_onField writable (by decide)
          (Lexeme.first_atMost (text ++ rest)) context position
        exact ⟨[], .atMost, .below, later, [], read, rfl, by decide⟩
  | _ => exact glued.elim

/-- An expression with such a value anywhere is read with other symbols than it has. The first such
value decides: what stands before it is read as it was written. -/
theorem comparisons_expression {expression : Expression} (rest : List Char)
    (writable : ∀ clause ∈ expression.atoms, clause.Writable)
    (shaped : ∀ clause ∈ expression.atoms, clause.Shaped)
    (glued : ∃ clause ∈ expression.atoms, clause.Glued) (place : context.AtOperand)
    (position : Nat) :
    Diverges (comparisons ⟨expression.write Clause.write ++ rest, position, context, false⟩)
      (Formula.comparisons expression) := by
  induction expression generalizing context rest position with
  | atom clause =>
    obtain ⟨same, member, glued⟩ := glued
    obtain rfl := List.mem_singleton.1 member
    have here := comparisons_glued (writable same member) glued rest context position
    have single : Formula.comparisons (.atom same) = same.comparison?.toList := by
      cases found : same.comparison? <;> simp [Formula.comparisons, Formula.atoms, found]
    rw [single, Formula.write_atom]
    exact here
  | join connective left right leftIh rightIh =>
    simp only [Formula.atoms, List.mem_append, or_imp, forall_and] at writable shaped
    let afterLeft := connective.word.toList ++ ' ' :: (right.write Clause.write ++ ')' :: rest)
    obtain ⟨opening, position₁, context₁, place₁, opened⟩ :=
      tokens_opening (left.write Clause.write ++ ' ' :: afterLeft) place position
    have inside : comparisons ⟨(Formula.join connective left right).write Clause.write ++ rest,
        position, context, false⟩ = comparisons ⟨left.write Clause.write ++ ' ' :: afterLeft,
          position₁, context₁, false⟩ := by
      rw [comparisons, Formula.write_join, opened, comparisons]
      simp [Token.comparison?, opening.property]
    have whole : Formula.comparisons (.join connective left right) =
        Formula.comparisons left ++ Formula.comparisons right := by
      simp [Formula.comparisons, Formula.atoms]
    rw [inside, whole]
    by_cases early : ∃ clause ∈ left.atoms, clause.Glued
    · exact (leftIh _ writable.1 shaped.1 early place₁ position₁).append_second _
    · simp only [not_exists, not_and] at early
      obtain ⟨unary, position₂, context₂, place₂, -, stands, read⟩ := tokens_expression left
        writable.1 early (Seam.blank afterLeft) place₁ position₁
      obtain ⟨mark, position₃, context₃, place₃, marked⟩ :=
        tokens_connective connective (right.write Clause.write ++ ')' :: rest) place₂ position₂
      have late : ∃ clause ∈ right.atoms, clause.Glued := by
        obtain ⟨clause, member, glued⟩ := glued
        rcases List.mem_append.1 member with inLeft | inRight
        · exact (early clause inLeft glued).elim
        · exact ⟨clause, inRight, glued⟩
      have front : comparisons ⟨left.write Clause.write ++ ' ' :: afterLeft, position₁, context₁,
          false⟩ = Formula.comparisons left ++
            comparisons ⟨right.write Clause.write ++ ')' :: rest, position₃, context₃, false⟩ := by
        rw [comparisons, read, marked, List.filterMap_append, Grammar.Closed.comparisons.unary unary,
          ← Formula.comparisons, ← Tree.comparisons_plain, stands,
          Expression.comparisons_canonical shaped.1]
        simp [comparisons, Token.comparison?, mark.property]
      rw [front]
      exact (rightIh _ writable.2 shaped.2 late place₃ position₃).append_both _
  | negation inner ih =>
    obtain ⟨mark, opening, position₁, context₁, place₁, opened⟩ :=
      tokens_negation (inner.write Clause.write ++ ')' :: rest) place position
    have inside : comparisons ⟨(Formula.negation inner).write Clause.write ++ rest, position, context,
        false⟩ = comparisons ⟨inner.write Clause.write ++ ')' :: rest, position₁, context₁, false⟩ := by
      rw [comparisons, Formula.write_negation, opened, comparisons]
      simp [Token.comparison?, mark.property, opening.property]
    rw [inside]
    exact ih _ writable shaped glued place₁ position₁

end Lexer

end SearchBox
