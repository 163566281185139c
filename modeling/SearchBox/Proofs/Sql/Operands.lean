import SearchBox.Proofs.Sql.Placeholders

/-! Conditions with other operands. The numbers of the placeholders depend on how many operands there
are and not on what they are, so the text of a statement shows nothing of its values. -/

namespace SearchBox.Sql

variable {ν μ : Type}

namespace Predicate

/-- The predicate with every operand changed. -/
def map (change : ν → μ) : Predicate ν → Predicate μ
  | pattern column operand => pattern column (change operand)
  | fullText column configuration reading operand =>
    fullText column configuration reading (change operand)
  | ranked column operand => ranked column (change operand)
  | equals column type operand => equals column type (change operand)
  | bound column comparison type operand => bound column comparison type (change operand)
  | between column type low high => between column type (change low) (change high)
  | member column type operands => member column type (operands.map change)

@[simp] theorem operands_map (change : ν → μ) (predicate : Predicate ν) :
    (predicate.map change).operands = predicate.operands.map change := by
  cases predicate <;> rfl

@[simp] theorem number_map (change : ν → μ) (first : Nat) (predicate : Predicate ν) :
    (predicate.map change).number first = predicate.number first := by
  cases predicate with
  | member column type operands => simp [map, number]
  | _ => rfl

end Predicate

namespace Condition

/-- The condition with every operand changed. -/
def mapOperands (change : ν → μ) (condition : Condition ν) : Condition μ :=
  condition.map (List.map (Predicate.map change))

theorem numberAlternatives_map (change : ν → μ) (first : Nat) (alternatives : List (Predicate ν)) :
    numberAlternatives first (alternatives.map (Predicate.map change)) =
      numberAlternatives first alternatives := by
  induction alternatives generalizing first with
  | nil => rfl
  | cons predicate later ih =>
    rw [List.map_cons, numberAlternatives, numberAlternatives, Predicate.number_map, ih,
      Predicate.operands_map, List.length_map]

theorem operandCount_mapOperands (change : ν → μ) (condition : Condition ν) :
    (condition.mapOperands change).operandCount = condition.operandCount := by
  induction condition with
  | atom alternatives =>
    simp [mapOperands, Formula.map, operandCount, Function.comp_def]
  | join connective left right leftIh rightIh => exact congrArg₂ (· + ·) leftIh rightIh
  | negation inner ih => exact ih

/-- Numbering forgets the operands. -/
theorem number_mapOperands (change : ν → μ) (first : Nat) (condition : Condition ν) :
    (condition.mapOperands change).number first = condition.number first := by
  induction condition generalizing first with
  | atom alternatives => exact congrArg Formula.atom (numberAlternatives_map change first alternatives)
  | join connective left right leftIh rightIh =>
    have parts : number first (mapOperands change (.join connective left right)) =
        .join connective (number first (mapOperands change left))
          (number (first + operandCount (mapOperands change left)) (mapOperands change right)) := rfl
    rw [parts, operandCount_mapOperands, leftIh, rightIh, number]
  | negation inner ih => exact congrArg Formula.negation (ih first)

end Condition

/-- The text of a statement is that of the condition without its values. -/
theorem Statement.text_ofCondition (condition : Condition String) :
    (Statement.ofCondition condition).text =
      String.ofList (Condition.write ((condition.mapOperands fun _ => ()).number 1)) := by
  rw [Condition.number_mapOperands, ofCondition]

end SearchBox.Sql
