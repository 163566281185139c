import SearchBox.Text.Literal

/-! The shapes of literals, told apart from the ways they are recognized. -/

namespace SearchBox

/-- One or more decimal digits. -/
def IsDigits (text : List Char) : Prop :=
  text ≠ [] ∧ ∀ c ∈ text, c.isDigit = true

/-- `[+-]?digits(.digits)?` -/
def IsDecimal (text : List Char) : Prop :=
  ∃ sign whole fraction, text = sign ++ (whole ++ fraction) ∧ sign ∈ [[], ['+'], ['-']] ∧
    IsDigits whole ∧ (fraction = [] ∨ ∃ digits, fraction = '.' :: digits ∧ IsDigits digits)

/-- A date written YYYY-MM-DD that is a day of the calendar. -/
def IsCalendarDate (text : List Char) : Prop :=
  ∃ year month day, text = year ++ '-' :: (month ++ '-' :: day) ∧
    (year.length = 4 ∧ IsDigits year) ∧ (month.length = 2 ∧ IsDigits month) ∧
    (day.length = 2 ∧ IsDigits day) ∧
    isCalendarDay (digitsValue year) (digitsValue month) (digitsValue day) = true

/-- `true` or `false`, in any case of the letters. -/
def IsTruthValue (text : List Char) : Prop :=
  text.map Char.toLower = "true".toList ∨ text.map Char.toLower = "false".toList

theorem isUnsignedNumber_iff {text : List Char} : isUnsignedNumber text = true ↔
    ∃ whole fraction, text = whole ++ fraction ∧ IsDigits whole ∧
      (fraction = [] ∨ ∃ digits, fraction = '.' :: digits ∧ IsDigits digits) := by
  constructor
  · intro number
    simp only [isUnsignedNumber, Bool.and_eq_true, Bool.not_eq_true', List.isEmpty_eq_false_iff]
      at number
    obtain ⟨nonempty, tail⟩ := number
    refine ⟨_, _, (List.takeWhile_append_dropWhile (p := Char.isDigit)).symm,
      ⟨nonempty, List.all_eq_true.1 List.all_takeWhile⟩, ?_⟩
    split at tail
    · next empty => exact .inl empty
    · next c fraction split =>
      simp only [Bool.and_eq_true, beq_iff_eq, Bool.not_eq_true', List.isEmpty_eq_false_iff,
        List.all_eq_true] at tail
      obtain ⟨⟨rfl, some⟩, digits⟩ := tail
      exact .inr ⟨fraction, split, some, digits⟩
  · rintro ⟨whole, fraction, rfl, ⟨nonempty, digits⟩, tail⟩
    have head : fraction.takeWhile Char.isDigit = [] ∧
        fraction.dropWhile Char.isDigit = fraction := by
      rcases tail with rfl | ⟨_, rfl, _⟩
      · exact ⟨rfl, rfl⟩
      · exact ⟨rfl, rfl⟩
    rw [isUnsignedNumber, List.takeWhile_append_of_pos digits, List.dropWhile_append_of_pos digits,
      head.1, head.2, List.append_nil]
    rcases tail with rfl | ⟨rest, rfl, some, more⟩
    · simp [nonempty]
    · simpa [nonempty, some] using more

/-- The recognizer of numbers accepts exactly the decimals. -/
theorem isNumber_iff {text : List Char} : isNumber text = true ↔ IsDecimal text := by
  constructor
  · intro number
    cases text with
    | nil => cases number
    | cons c text =>
      rw [isNumber, isUnsignedNumber_iff] at number
      obtain ⟨whole, fraction, split, digits, tail⟩ := number
      by_cases signed : c = '+' ∨ c = '-'
      · rw [if_pos signed] at split
        refine ⟨[c], whole, fraction, by rw [split]; rfl, ?_, digits, tail⟩
        rcases signed with rfl | rfl <;> simp
      · rw [if_neg signed] at split
        exact ⟨[], whole, fraction, split, by simp, digits, tail⟩
  · rintro ⟨sign, whole, fraction, rfl, signed, digits, tail⟩
    have unsigned : isUnsignedNumber (whole ++ fraction) = true :=
      isUnsignedNumber_iff.2 ⟨whole, fraction, rfl, digits, tail⟩
    simp only [List.mem_cons, List.not_mem_nil, or_false] at signed
    rcases signed with rfl | rfl | rfl
    · obtain ⟨c, later, same⟩ := List.exists_cons_of_ne_nil digits.1
      have digit := digits.2 c (by simp [same])
      have noSign : ¬(c = '+' ∨ c = '-') := by
        rintro (rfl | rfl) <;> cases digit
      rw [same] at unsigned ⊢
      simpa [isNumber, noSign] using unsigned
    · simpa [isNumber] using unsigned
    · simpa [isNumber] using unsigned

/-- The recognizer of calendar dates accepts only dates of the calendar. -/
theorem isCalendarDate_of_isCalendarDate {text : List Char} (date : isCalendarDate text = true) :
    IsCalendarDate text := by
  unfold isCalendarDate at date
  split at date
  · next year month day parts =>
    unfold dateParts? at parts
    split at parts
    · next y₁ y₂ y₃ y₄ m₁ m₂ d₁ d₂ =>
      split at parts
      · next digits =>
        cases parts
        simp only [List.all_cons, List.all_nil, Bool.and_true, Bool.and_eq_true] at digits
        obtain ⟨hy₁, hy₂, hy₃, hy₄, hm₁, hm₂, hd₁, hd₂⟩ := digits
        refine ⟨[y₁, y₂, y₃, y₄], [m₁, m₂], [d₁, d₂], rfl, ⟨rfl, by simp, ?_⟩, ⟨rfl, by simp, ?_⟩,
          ⟨rfl, by simp, ?_⟩, date⟩
        · simp [hy₁, hy₂, hy₃, hy₄]
        · simp [hm₁, hm₂]
        · simp [hd₁, hd₂]
      · cases parts
    · cases parts
  · cases date

end SearchBox
