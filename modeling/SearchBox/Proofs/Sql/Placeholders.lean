import SearchBox.Proofs.Sql.Tokens
import SearchBox.Sql.Compile

/-! Placeholders of a condition. They are its operands, in the order of the text, and the operands are
numbered from left to right without a gap. -/

namespace SearchBox.Sql

/-! The placeholders of a text are the operands of what it is written for. -/

theorem filterMap_intercalate {α β : Type} {f : α → Option β} {separator : List α}
    (none : separator.filterMap f = []) (lists : List (List α)) :
    (separator.intercalate lists).filterMap f = lists.flatMap (List.filterMap f) := by
  induction lists with
  | nil => rfl
  | cons list lists ih =>
    cases lists with
    | nil => rw [List.intercalate_singleton, List.flatMap_singleton]
    | cons next lists =>
      rw [List.intercalate_cons_cons, List.filterMap_append, List.filterMap_append, none,
        List.append_nil, ih]
      exact List.flatMap_cons.symm

/-- The placeholders among tokens. -/
def placeholders (tokens : List SqlToken) : List Nat :=
  tokens.filterMap SqlToken.placeholder?

@[simp] theorem placeholders_append (first second : List SqlToken) :
    placeholders (first ++ second) = placeholders first ++ placeholders second :=
  List.filterMap_append

@[simp] theorem placeholders_typedTokens (type : FieldType) (number : Nat) :
    placeholders (typedTokens type number) = [number] := by
  cases type <;> rfl

theorem placeholders_columnTokens {column : String}
    (quoted : ∃ name, column = quoteIdentifier name) : placeholders (columnTokens column) = [] := by
  obtain ⟨name, rfl⟩ := quoted
  rw [columnTokens, Scan.scan?_quoteIdentifier]
  exact Scan.placeholders_nameTokens [] name.toList

theorem placeholders_predicate {predicate : Predicate Nat} (readable : predicate.Readable) :
    placeholders predicate.tokens = predicate.operands := by
  have none := placeholders_columnTokens readable.quoted
  have behind (rest : List SqlToken) :
      placeholders (columnTokens predicate.column ++ rest) = placeholders rest := by
    rw [placeholders_append, none, List.nil_append]
  cases predicate with
  | pattern column operand => exact behind [.word _, .placeholder operand]
  | ranked column operand => exact behind [.operator _, .placeholder operand]
  | equals column type operand =>
    exact (behind (.operator _ :: typedTokens type operand)).trans (placeholders_typedTokens _ _)
  | bound column comparison type operand =>
    exact (behind (.operator _ :: typedTokens type operand)).trans (placeholders_typedTokens _ _)
  | between column type low high =>
    have two : placeholders (typedTokens type low ++ .word "AND".toList :: typedTokens type high) =
        [low, high] := by
      rw [placeholders_append, placeholders_typedTokens]
      exact congrArg (low :: ·) (placeholders_typedTokens type high)
    exact (behind _).trans two
  | member column type operands =>
    have items : placeholders ([SqlToken.symbol ','].intercalate
        (operands.map (typedTokens type)) ++ [.symbol ')']) = operands := by
      rw [placeholders_append, placeholders, filterMap_intercalate rfl, List.flatMap_map]
      show operands.flatMap (fun number => placeholders (typedTokens type number)) ++ [] = operands
      simp
    exact (behind _).trans items
  | fullText column configuration reading operand =>
    have later := behind [.symbol ')', .operator "@@".toList, .word reading.function.toList,
      .symbol '(', .string configuration.toList, .symbol ',', .placeholder operand, .symbol ')']
    exact later

theorem placeholders_alternatives {alternatives : List (Predicate Nat)}
    (readable : ∀ predicate ∈ alternatives, predicate.Readable) :
    placeholders (Condition.alternativesTokens alternatives) =
      alternatives.flatMap Predicate.operands := by
  have several : placeholders ([SqlToken.word "OR".toList].intercalate
      (alternatives.map Predicate.tokens) ++ [.symbol ')']) =
        alternatives.flatMap Predicate.operands := by
    rw [placeholders_append, placeholders, filterMap_intercalate rfl, List.flatMap_map]
    show alternatives.flatMap (fun predicate => placeholders predicate.tokens) ++ [] = _
    rw [List.append_nil]
    apply List.flatMap_congr
    intro predicate member
    exact placeholders_predicate (readable predicate member)
  match alternatives with
  | [] => exact several
  | [single] =>
    have one := placeholders_predicate (readable single (by simp))
    simpa [Condition.alternativesTokens] using one
  | _ :: _ :: _ => exact several

theorem placeholders_condition {condition : Condition Nat} (readable : condition.Readable) :
    placeholders condition.tokens = condition.operands := by
  induction condition with
  | atom alternatives =>
    have here := placeholders_alternatives (readable alternatives (by simp [Formula.atoms]))
    simpa [Condition.tokens, Condition.operands, Formula.atoms] using here
  | join connective left right leftIh rightIh =>
    simp only [Condition.Readable, Formula.atoms, List.mem_append, or_imp, forall_and] at readable
    have close : placeholders (Condition.tokens right ++ [.symbol ')']) =
        placeholders (Condition.tokens right) := by
      rw [placeholders_append]
      exact List.append_nil _
    calc placeholders (Condition.tokens (.join connective left right))
      _ = placeholders (Condition.tokens left ++
          .word connective.word.toList :: (Condition.tokens right ++ [.symbol ')'])) := rfl
      _ = placeholders (Condition.tokens left) ++
          placeholders (Condition.tokens right ++ [.symbol ')']) := by
        rw [placeholders_append]
        rfl
      _ = Condition.operands left ++ Condition.operands right := by
        rw [close, leftIh readable.1, rightIh readable.2]
      _ = Condition.operands (.join connective left right) := by
        simp [Condition.operands, Formula.atoms]
  | negation inner ih =>
    have parts : placeholders (Condition.tokens inner ++ [.symbol ')']) =
        Condition.operands inner := by
      rw [placeholders_append, ih readable]
      exact List.append_nil _
    exact parts

/-! Operands are numbered without a gap. -/

namespace Predicate

variable {ν : Type}

theorem operands_number (first : Nat) (predicate : Predicate ν) :
    (predicate.number first).operands = List.range' first predicate.operands.length := by
  cases predicate <;> rfl

end Predicate

namespace Condition

variable {ν : Type}

theorem operands_numberAlternatives (first : Nat) (alternatives : List (Predicate ν)) :
    (numberAlternatives first alternatives).flatMap Predicate.operands =
      List.range' first (alternatives.flatMap Predicate.operands).length := by
  induction alternatives generalizing first with
  | nil => rfl
  | cons predicate later ih =>
    rw [numberAlternatives, List.flatMap_cons, Predicate.operands_number, ih, List.flatMap_cons,
      List.length_append, List.range'_append_1]

theorem operandCount_eq (condition : Condition ν) :
    condition.operandCount = condition.operands.length := by
  induction condition with
  | atom alternatives => simp [operandCount, operands, Formula.atoms]
  | join connective left right leftIh rightIh =>
    rw [operandCount, leftIh, rightIh]
    simp [operands, Formula.atoms]
  | negation inner ih => exact ih

/-- Numbering from left to right leaves no gap between two parts. -/
theorem operands_number (first : Nat) (condition : Condition ν) :
    (condition.number first).operands = List.range' first condition.operandCount := by
  induction condition generalizing first with
  | atom alternatives =>
    have whole := operands_numberAlternatives first alternatives
    simpa [number, operands, Formula.atoms, operandCount] using whole
  | join connective left right leftIh rightIh =>
    calc (number first (.join connective left right)).operands
      _ = (number first left).operands ++ (number (first + operandCount left) right).operands := by
        simp [number, operands, Formula.atoms]
      _ = List.range' first (operandCount left) ++
          List.range' (first + operandCount left) (operandCount right) := by rw [leftIh, rightIh]
      _ = List.range' first (operandCount left + operandCount right) := List.range'_append_1
  | negation inner ih => exact ih first

/-- A predicate of a numbered condition is one of the condition, numbered from where its operands
stand among all. -/
theorem exists_numberAlternatives {first : Nat} {alternatives : List (Predicate ν)}
    {predicate : Predicate Nat} (member : predicate ∈ numberAlternatives first alternatives) :
    ∃ original ∈ alternatives, ∃ before after,
      predicate = original.number (first + before.length) ∧
        alternatives.flatMap Predicate.operands = before ++ (original.operands ++ after) := by
  induction alternatives generalizing first with
  | nil => cases member
  | cons head later ih =>
    rw [numberAlternatives, List.mem_cons] at member
    rcases member with rfl | member
    · exact ⟨head, by simp, [], later.flatMap Predicate.operands, rfl, List.flatMap_cons⟩
    · obtain ⟨original, found, before, after, rfl, rest⟩ := ih member
      refine ⟨original, by simp [found], head.operands ++ before, after, ?_, ?_⟩
      · rw [List.length_append, Nat.add_assoc]
      · rw [List.flatMap_cons, rest, List.append_assoc]

theorem exists_number {first : Nat} {condition : Condition ν} {numbered : List (Predicate Nat)}
    (inside : numbered ∈ (condition.number first).atoms) {predicate : Predicate Nat}
    (member : predicate ∈ numbered) :
    ∃ alternatives ∈ condition.atoms, ∃ original ∈ alternatives, ∃ before after,
      predicate = original.number (first + before.length) ∧
        condition.operands = before ++ (original.operands ++ after) := by
  induction condition generalizing first with
  | atom alternatives =>
    obtain rfl := List.mem_singleton.1 inside
    obtain ⟨original, found, before, after, same, rest⟩ := exists_numberAlternatives member
    refine ⟨alternatives, by simp [Formula.atoms], original, found, before, after, same, ?_⟩
    rw [operands, Formula.atoms, List.flatMap_singleton, rest]
  | join connective left right leftIh rightIh =>
    have split : operands (.join connective left right) = operands left ++ operands right := by
      simp [operands, Formula.atoms]
    rcases List.mem_append.1 inside with inLeft | inRight
    · obtain ⟨alternatives, here, original, found, before, after, same, rest⟩ := leftIh inLeft
      refine ⟨alternatives, List.mem_append_left _ here, original, found, before,
        after ++ operands right, same, ?_⟩
      rw [split, rest]
      simp
    · obtain ⟨alternatives, here, original, found, before, after, same, rest⟩ := rightIh inRight
      refine ⟨alternatives, List.mem_append_right _ here, original, found,
        operands left ++ before, after, ?_, ?_⟩
      · rw [same, operandCount_eq, List.length_append, Nat.add_assoc]
      · rw [split, rest, List.append_assoc]
  | negation inner ih => exact ih inside

theorem Readable.number {condition : Condition ν} (readable : condition.Readable) (first : Nat) :
    (condition.number first).Readable := by
  intro numbered inside predicate member
  obtain ⟨alternatives, here, original, found, before, _, rfl, _⟩ := exists_number inside member
  exact (readable alternatives here original found).number (first + before.length)

end Condition

theorem scan?_ofCondition {condition : Condition String} (readable : condition.Readable) :
    scan? (Statement.ofCondition condition).text = some (condition.number 1).tokens := by
  apply Scan.Emits.scan?
  rw [Statement.ofCondition, String.toList_ofList]
  exact Scan.emits_condition (readable.number 1)

/-- The text of a statement holds one placeholder for each value, counted from one. -/
theorem placeholders_ofCondition {condition : Condition String} (readable : condition.Readable) :
    placeholders (condition.number 1).tokens =
      List.range' 1 (Statement.ofCondition condition).values.length := by
  rw [placeholders_condition (readable.number 1), Condition.operands_number,
    Condition.operandCount_eq]
  rfl

end SearchBox.Sql
