import SearchBox.Calendar

/-! The Gregorian calendar as a table of months with a leap day, and the days that are told by their
numbers. -/

namespace SearchBox

/-- Every fourth year, but of the full centuries only every fourth. -/
def LeapYear (year : Nat) : Prop :=
  4 ∣ year ∧ (100 ∣ year → 400 ∣ year)

/-- The months and how many days they have in a common year. -/
def commonMonths : List (Nat × Nat) :=
  [(1, 31), (2, 28), (3, 31), (4, 30), (5, 31), (6, 30), (7, 31), (8, 31), (9, 30), (10, 31),
    (11, 30), (12, 31)]

/-- The days of the Gregorian calendar: those of a common year, and the leap day. -/
inductive GregorianDay (year : Nat) : (month day : Nat) → Prop where
  | common {month length day : Nat} (listed : (month, length) ∈ commonMonths) (first : 1 ≤ day)
      (last : day ≤ length) : GregorianDay year month day
  | leap (leapYear : LeapYear year) : GregorianDay year 2 29

theorem isLeapYear_iff {year : Nat} : isLeapYear year = true ↔ LeapYear year := by
  simp only [isLeapYear, LeapYear, Bool.and_eq_true, Bool.or_eq_true, beq_iff_eq, bne_iff_ne]
  omega

theorem mem_commonMonths_iff {month length : Nat} : (month, length) ∈ commonMonths ↔
    (1 ≤ month ∧ month ≤ 12) ∧ length = daysInMonth 1 month := by
  constructor
  · exact (by decide : ∀ listed ∈ commonMonths,
      (1 ≤ listed.1 ∧ listed.1 ≤ 12) ∧ listed.2 = daysInMonth 1 listed.1) (month, length)
  · rintro ⟨⟨low, high⟩, rfl⟩
    exact (by decide : ∀ month ≤ 12, 1 ≤ month → (month, daysInMonth 1 month) ∈ commonMonths)
      month high low

/-- Only the second month of a leap year is longer than in a common year. -/
theorem daysInMonth_eq (year month : Nat) : daysInMonth year month =
    if month = 2 ∧ isLeapYear year = true then 29 else daysInMonth 1 month := by
  by_cases second : month = 2
  · subst second
    simp [daysInMonth, isLeapYear]
  · rw [if_neg fun both => second both.1]
    unfold daysInMonth
    split <;> simp_all

theorem isCalendarDay_iff {year month day : Nat} :
    isCalendarDay year month day = true ↔ GregorianDay year month day := by
  simp only [isCalendarDay, Bool.and_eq_true, decide_eq_true_eq]
  constructor
  · rintro ⟨⟨⟨low, high⟩, first⟩, last⟩
    rw [daysInMonth_eq] at last
    by_cases common : day ≤ daysInMonth 1 month
    · exact .common (mem_commonMonths_iff.2 ⟨⟨low, high⟩, rfl⟩) first common
    · split at last
      · next leap =>
        obtain ⟨rfl, leapYear⟩ := leap
        have longest : ¬day ≤ 28 := common
        obtain rfl : day = 29 := by omega
        exact .leap (isLeapYear_iff.1 leapYear)
      · exact (common last).elim
  · intro gregorian
    cases gregorian with
    | common listed first last =>
      obtain ⟨bounds, rfl⟩ := mem_commonMonths_iff.1 listed
      refine ⟨⟨bounds, first⟩, ?_⟩
      rw [daysInMonth_eq]
      split
      · next leap =>
        obtain ⟨rfl, _⟩ := leap
        exact Nat.le_trans last (by decide)
      · exact last
    | leap leapYear =>
      rw [daysInMonth_eq, if_pos ⟨rfl, isLeapYear_iff.2 leapYear⟩]
      decide

end SearchBox
