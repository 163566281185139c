import SearchBox.Formula
import SearchBox.Proofs.Sql.Test

/-!
Conditions as PostgreSQL groups them: `OR` binds least, then `AND`, then `NOT`, and tests bind most;
joins of one connective lean to the left. The grouping is told twice, as a grammar with a level for
each strength and as a reader with a stack, and the reader finds what the grammar spells.
-/

namespace SearchBox

/-- How strongly a connective binds. -/
def Connective.strength : Connective → Nat
  | .or => 1
  | .and => 2

theorem Connective.strength_pos (connective : Connective) : 1 ≤ connective.strength := by
  cases connective <;> decide

theorem Connective.strength_lt (connective : Connective) : connective.strength < 3 := by
  cases connective <;> decide

namespace Sql

/-- What stands side by side in a condition. -/
inductive Piece (α : Type) where
  | test (test : α)
  | opening
  | closing
  | negation
  | connective (connective : Connective)
  deriving DecidableEq, Repr

/-- The piece that a token is by itself. -/
def Piece.ofToken? {α : Type} : SqlToken → Option (Piece α)
  | .symbol '(' => some opening
  | .symbol ')' => some closing
  | .word word =>
    match Reserved.ofWord? word with
    | some .and => some (connective .and)
    | some .or => some (connective .or)
    | some .not => some negation
    | _ => none
  | _ => none

/-- The pieces of a text, where a test reaches as far as it can. -/
def pieces? : List SqlToken → Option (List (Piece (Test Nat)))
  | [] => some []
  | token :: rest =>
    match Piece.ofToken? token with
    | some piece => (pieces? rest).map (piece :: ·)
    | none =>
      match _read : readTest? (token :: rest) with
      | some (test, rest') => (pieces? rest').map (.test test :: ·)
      | none => none
termination_by tokens => tokens.length
decreasing_by
  · simp
  · exact length_of_readTest? _read

section Grouping

variable {α : Type}

/-- The grammar. At a level stand conditions that are joined by nothing weaker; `NOT` is at the third
level, and tests and groups are at the fourth. -/
inductive Spells : Nat → Formula α → List (Piece α) → Prop where
  | test (test : α) : Spells 4 (.atom test) [.test test]
  | group {formula pieces} (inside : Spells 1 formula pieces) :
      Spells 4 formula (.opening :: (pieces ++ [.closing]))
  | negation {formula pieces} (inner : Spells 3 formula pieces) :
      Spells 3 (.negation formula) (.negation :: pieces)
  | join (connective : Connective) {left right before after}
      (onLeft : Spells connective.strength left before)
      (onRight : Spells (connective.strength + 1) right after) :
      Spells connective.strength (.join connective left right)
        (before ++ .connective connective :: after)
  | lower {level level' formula pieces} (le : level ≤ level') (higher : Spells level' formula pieces) :
      Spells level formula pieces

/-- What is begun and not complete: a group, a negation, or a join that has its left side. -/
inductive Open (α : Type) where
  | group
  | negation
  | join (connective : Connective) (left : Formula α)
  deriving DecidableEq, Repr

/-- How strongly it binds what comes next. -/
def Open.strength : Open α → Nat
  | group => 0
  | join connective _ => connective.strength
  | negation => 3

def Open.complete : Open α → Formula α → Formula α
  | group, inner => inner
  | negation, inner => .negation inner
  | join connective left, right => .join connective left right

/-- Completes what binds at least this strongly, from the top of the stack on. -/
def settle (strength : Nat) : List (Open α) → Formula α → List (Open α) × Formula α
  | [], formula => ([], formula)
  | top :: stack, formula =>
    if strength ≤ top.strength then settle strength stack (top.complete formula)
    else (top :: stack, formula)

/-- Reads pieces on a stack of what is begun, behind a condition that is complete for now or before
one that has to come. -/
def group? : List (Open α) → Option (Formula α) → List (Piece α) → Option (Formula α)
  | stack, none, .test test :: rest => group? stack (some (.atom test)) rest
  | stack, none, .opening :: rest => group? (.group :: stack) none rest
  | stack, none, .negation :: rest => group? (.negation :: stack) none rest
  | stack, some formula, .connective connective :: rest =>
    let (stack', left) := settle connective.strength stack formula
    group? (.join connective left :: stack') none rest
  | stack, some formula, .closing :: rest =>
    match settle 1 stack formula with
    | (.group :: stack', inner) => group? stack' (some inner) rest
    | _ => none
  | stack, some formula, [] =>
    match settle 1 stack formula with
    | ([], whole) => some whole
    | _ => none
  | _, _, _ => none

/-- How strongly the next piece pulls: a connective as it binds, and an end like the weakest. -/
def pull : List (Piece α) → Nat
  | .connective connective :: _ => connective.strength
  | _ => 1

theorem settle_of_le {strength : Nat} {top : Open α} (le : strength ≤ top.strength)
    (stack : List (Open α)) (formula : Formula α) :
    settle strength (top :: stack) formula = settle strength stack (top.complete formula) :=
  if_pos le

theorem settle_of_lt {strength : Nat} {stack : List (Open α)}
    (weaker : ∀ top ∈ stack.head?, top.strength < strength) (formula : Formula α) :
    settle strength stack formula = (stack, formula) := by
  cases stack with
  | nil => rfl
  | cons top stack => exact if_neg (Nat.not_le_of_lt (weaker top rfl))

/-- What binds at least as strongly as the next piece pulls can be completed at once. -/
theorem group?_complete {top : Open α} {rest : List (Piece α)} (le : pull rest ≤ top.strength)
    (stack : List (Open α)) (formula : Formula α) :
    group? (top :: stack) (some formula) rest = group? stack (some (top.complete formula)) rest := by
  have settled (strength : Nat) (same : pull rest = strength) :
      settle strength (top :: stack) formula = settle strength stack (top.complete formula) :=
    settle_of_le (same ▸ le) stack formula
  cases rest with
  | nil => rw [group?, group?, settled 1 rfl]
  | cons piece rest =>
    cases piece with
    | connective connective => rw [group?, group?, settled connective.strength rfl]
    | closing => rw [group?, group?, settled 1 rfl]
    | test | opening | negation => rfl

/-- No connective of the level would complete the top of the stack first. -/
def Weaker (stack : List (Open α)) (level : Nat) : Prop :=
  ∀ connective : Connective, level ≤ connective.strength →
    ∀ top ∈ stack.head?, top.strength < connective.strength

theorem Weaker.nil (level : Nat) : Weaker ([] : List (Open α)) level := by
  rintro connective _ top ⟨⟩

theorem Weaker.higher {stack : List (Open α)} {level level' : Nat} (weaker : Weaker stack level)
    (le : level ≤ level') : Weaker stack level' :=
  fun connective within => weaker connective (Nat.le_trans le within)

/-- A condition of the grammar is read as one, on a stack and before pieces that leave it alone. -/
theorem group?_of_spells {level : Nat} {formula : Formula α} {pieces : List (Piece α)}
    (spells : Spells level formula pieces) {stack : List (Open α)} (weaker : Weaker stack level)
    {rest : List (Piece α)} (pulled : pull rest ≤ level) :
    group? stack none (pieces ++ rest) = group? stack (some formula) rest := by
  -- For every stack: a group or an operand of `NOT` is read on a stack that has grown.
  induction spells generalizing stack rest with
  | test test => rfl
  | @group formula pieces _ ih =>
    have inside : Weaker (.group :: stack) 1 := by
      rintro connective within _ ⟨⟩
      exact within
    calc group? stack none (.opening :: (pieces ++ [.closing]) ++ rest)
      _ = group? (.group :: stack) none (pieces ++ .closing :: rest) := by
        rw [List.cons_append, List.append_assoc, group?]
        rfl
      _ = group? (.group :: stack) (some formula) (.closing :: rest) := ih inside (Nat.le_refl 1)
      _ = group? stack (some formula) rest := rfl
  | @negation formula pieces _ ih =>
    have vacuous : Weaker (.negation :: stack) 3 := fun connective within =>
      (Nat.not_le_of_lt connective.strength_lt within).elim
    rw [List.cons_append, group?, ih vacuous pulled, group?_complete pulled]
    rfl
  | @join connective left right before after _ _ leftIh rightIh =>
    have onRight : Weaker (.join connective left :: stack) (connective.strength + 1) := by
      rintro other within _ ⟨⟩
      exact within
    calc group? stack none (before ++ .connective connective :: after ++ rest)
      _ = group? stack (some left) (.connective connective :: (after ++ rest)) := by
        rw [List.append_assoc]
        exact leftIh weaker (Nat.le_refl connective.strength)
      _ = group? (.join connective left :: stack) none (after ++ rest) := by
        rw [group?, settle_of_lt (weaker connective (Nat.le_refl _))]
      _ = group? (.join connective left :: stack) (some right) rest :=
        rightIh onRight (Nat.le_succ_of_le pulled)
      _ = group? stack (some (.join connective left right)) rest := group?_complete pulled _ _
  | lower le _ ih => exact ih (weaker.higher le) (Nat.le_trans pulled le)

/-! The reader finds nothing else. -/

/-- The level that the operand of what is open has to be at. -/
def Open.level : Open α → Nat
  | group => 1
  | negation => 3
  | join connective _ => connective.strength + 1

theorem Open.level_le_three (top : Open α) : top.level ≤ 3 := by
  cases top with
  | group => exact Nat.le_add_left 1 2
  | negation => exact Nat.le_refl 3
  | join connective left => exact connective.strength_lt

theorem Open.level_le_of_lt {top : Open α} {connective : Connective}
    (weaker : top.strength < connective.strength) : top.level ≤ connective.strength := by
  cases top with
  | group => exact connective.strength_pos
  | negation => exact (Nat.lt_asymm weaker connective.strength_lt).elim
  | join other left => exact weaker

/-- The pieces leave the stack open, and a condition is to come. -/
inductive Opens : List (Piece α) → List (Open α) → Prop where
  | start : Opens [] []
  | group {before stack} (opens : Opens before stack) :
      Opens (before ++ [.opening]) (.group :: stack)
  | negation {before stack} (opens : Opens before stack) :
      Opens (before ++ [.negation]) (.negation :: stack)
  | join {before stack} (opens : Opens before stack) (connective : Connective) {left pieces}
      (onLeft : Spells connective.strength left pieces)
      (weaker : ∀ top ∈ stack.head?, top.strength < connective.strength) :
      Opens (before ++ (pieces ++ [.connective connective])) (.join connective left :: stack)

/-- The last of the pieces spell the condition, at a level that is not below the strength, and the
others leave open what binds less. -/
def Settled (strength : Nat) (pieces : List (Piece α)) (stack : List (Open α))
    (formula : Formula α) : Prop :=
  ∃ before after, pieces = before ++ after ∧ Opens before stack ∧
    Spells strength formula after ∧ ∀ top ∈ stack.head?, top.strength < strength

theorem Opens.settled_of_lt {strength level : Nat} {pieces part : List (Piece α)}
    {stack : List (Open α)} (opens : Opens pieces stack) {formula : Formula α}
    (spells : Spells level formula part) (enough : strength ≤ level)
    (weaker : ∀ top ∈ stack.head?, top.strength < strength) :
    Settled strength (pieces ++ part) (settle strength stack formula).1
      (settle strength stack formula).2 := by
  rw [settle_of_lt weaker]
  exact ⟨pieces, part, rfl, opens, .lower enough spells, weaker⟩

theorem Opens.settled {strength : Nat} (positive : 0 < strength) {pieces : List (Piece α)}
    {stack : List (Open α)} (opens : Opens pieces stack) {level : Nat} {formula : Formula α}
    {part : List (Piece α)} (spells : Spells level formula part) (enough : strength ≤ level)
    (fits : ∀ top ∈ stack.head?, top.level ≤ level) :
    Settled strength (pieces ++ part) (settle strength stack formula).1
      (settle strength stack formula).2 := by
  -- What is completed is an operand for the next one down, so its level and pieces change.
  induction opens generalizing level formula part with
  | start => exact Opens.start.settled_of_lt spells enough nofun
  | group opens _ =>
    exact opens.group.settled_of_lt spells enough (by simpa [Open.strength] using positive)
  | @negation before stack opens ih =>
    by_cases le : strength ≤ Open.strength (.negation : Open α)
    · have whole : Spells 3 (.negation formula) (.negation :: part) :=
        .negation (.lower (fits .negation rfl) spells)
      have rest := ih whole le fun top _ => top.level_le_three
      rw [settle_of_le le, List.append_assoc]
      exact rest
    · have weaker := Nat.lt_of_not_le le
      exact opens.negation.settled_of_lt spells enough (by simpa using weaker)
  | @join before stack opens connective left pieces onLeft weaker ih =>
    by_cases le : strength ≤ Open.strength (.join connective left)
    · have whole : Spells connective.strength (.join connective left formula)
          (pieces ++ .connective connective :: part) :=
        .join connective onLeft (.lower (fits (.join connective left) rfl) spells)
      have rest := ih whole le fun top member => Open.level_le_of_lt (weaker top member)
      rw [settle_of_le le, List.append_assoc, List.append_assoc]
      exact rest
    · have weaker' := Nat.lt_of_not_le le
      exact (opens.join connective onLeft weaker).settled_of_lt spells enough
        (by simpa using weaker')

/-- The condition at hand, which is a test or a group, is spelled by the pieces. -/
def Current : Option (Formula α) → List (Piece α) → Prop
  | none, pieces => pieces = []
  | some formula, pieces => Spells 4 formula pieces

theorem Open.level_le_four (stack : List (Open α)) : ∀ top ∈ stack.head?, top.level ≤ 4 :=
  fun top _ => Nat.le_succ_of_le top.level_le_three

theorem Opens.of_group? {pieces : List (Piece α)} {stack : List (Open α)}
    (opens : Opens pieces stack) {current : Option (Formula α)} {part : List (Piece α)}
    (spells : Current current part) {rest : List (Piece α)} {whole : Formula α}
    (read : group? stack current rest = some whole) : Spells 1 whole (pieces ++ part ++ rest) := by
  fun_induction group? stack current rest generalizing pieces part with
  | case1 stack test rest ih =>
    obtain rfl : part = [] := spells
    have found := ih opens (.test test) read
    simpa using found
  | case2 stack rest ih =>
    obtain rfl : part = [] := spells
    have found := ih opens.group rfl read
    simpa using found
  | case3 stack rest ih =>
    obtain rfl : part = [] := spells
    have found := ih opens.negation rfl read
    simpa using found
  | case4 stack formula connective rest stack' left settled ih =>
    have weak := connective.strength_lt
    have rest := opens.settled connective.strength_pos spells (by omega) (Open.level_le_four stack)
    rw [settled] at rest
    obtain ⟨before, after, same, open', onLeft, weaker⟩ := rest
    have found := ih (open'.join connective onLeft weaker) rfl read
    rw [same]
    simpa using found
  | case5 stack formula rest stack' inner settled ih =>
    have rest := opens.settled Nat.one_pos spells (by decide) (Open.level_le_four stack)
    rw [settled] at rest
    obtain ⟨before, after, same, open', inside, _⟩ := rest
    cases open' with
    | group open' =>
      have found := ih open' (.group inside) read
      rw [same]
      simpa using found
  | case6 => cases read
  | case7 stack formula whole' settled =>
    have rest := opens.settled Nat.one_pos spells (by decide) (Open.level_le_four stack)
    rw [settled] at rest
    obtain ⟨before, after, same, open', inside, _⟩ := rest
    cases open'
    cases read
    rw [List.append_nil, same]
    exact inside
  | case8 => cases read
  | case9 => cases read

/-- The reader finds exactly what the grammar spells, so pieces have one grouping at most. -/
theorem group?_eq_some_iff {pieces : List (Piece α)} {formula : Formula α} :
    group? [] none pieces = some formula ↔ Spells 1 formula pieces := by
  constructor
  · intro read
    have begun : Current (none : Option (Formula α)) [] := rfl
    exact Opens.start.of_group? begun read
  · intro spells
    have read : group? [] none (pieces ++ []) = group? [] (some formula) [] :=
      group?_of_spells spells (Weaker.nil 1) (Nat.le_refl 1)
    rw [List.append_nil] at read
    rw [read]
    rfl

end Grouping

/-- The condition that a text stands for. -/
def readCondition? (text : String) : Option (Formula (Test Nat)) := do
  group? [] none (← pieces? (← scan? text))

theorem readCondition?_eq_some_iff {text : String} {formula : Formula (Test Nat)} :
    readCondition? text = some formula ↔ ∃ tokens pieces, scan? text = some tokens ∧
      pieces? tokens = some pieces ∧ Spells 1 formula pieces := by
  simp [readCondition?, Option.bind_eq_some_iff, group?_eq_some_iff]

example : readCondition? "\"a\" = $1 OR NOT \"b\" = $2 AND \"c\" BETWEEN $3 AND $4 OR \"d\" = $5" =
    some (.join .or (.join .or
      (.atom (.operation ['='] (.plain (.column [['a']])) (.plain (.parameter 1))))
      (.join .and
        (.negation (.atom (.operation ['='] (.plain (.column [['b']])) (.plain (.parameter 2)))))
        (.atom (.between (.plain (.column [['c']])) (.plain (.parameter 3)) (.plain (.parameter 4))))))
      (.atom (.operation ['='] (.plain (.column [['d']])) (.plain (.parameter 5))))) := by
  decide +kernel

end Sql

end SearchBox
