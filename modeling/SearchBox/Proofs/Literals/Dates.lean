import Mathlib.Algebra.Group.Nat.Defs
import Mathlib.Data.List.Induction
import SearchBox.Proofs.Literals.Calendar
import SearchBox.Text.Literal

/-! Dates as they are written. Reading a date gives back the numbers that it was written from, and no
text but a written date is read. -/

namespace SearchBox

/-! Texts of digits, and the numbers that they write. -/

/-- The last `width` digits of the number. -/
def padded : (width n : Nat) → List Char
  | 0, _ => []
  | width + 1, n => padded width (n / 10) ++ [Nat.digitChar (n % 10)]

theorem digitsValue_concat (text : List Char) (c : Char) :
    digitsValue (text ++ [c]) = 10 * digitsValue text + digitValue c := by
  rw [digitsValue, digitsValue, List.foldl_append]
  rfl

theorem length_padded (width n : Nat) : (padded width n).length = width := by
  induction width generalizing n with
  | zero => rfl
  | succ width ih => rw [padded, List.length_append, ih, List.length_singleton]

theorem isDigit_padded (width n : Nat) : ∀ c ∈ padded width n, c.isDigit = true := by
  induction width generalizing n with
  | zero => exact List.forall_mem_nil _
  | succ width ih =>
    rw [padded, List.forall_mem_append]
    refine ⟨ih (n / 10), List.forall_mem_singleton.2 ?_⟩
    rw [Nat.isDigit_digitChar, decide_eq_true_iff]
    exact Nat.mod_lt n (by decide)

theorem digitsValue_padded {width n : Nat} (fits : n < 10 ^ width) :
    digitsValue (padded width n) = n := by
  induction width generalizing n with
  | zero => exact (Nat.lt_one_iff.1 fits).symm
  | succ width ih =>
    have shorter : n / 10 < 10 ^ width := Nat.div_lt_of_lt_mul (by rwa [Nat.pow_succ'] at fits)
    rw [padded, digitsValue_concat, ih shorter, digitValue,
      Nat.toNat_digitChar_of_lt_ten (Nat.mod_lt n (by decide))]
    have split := Nat.div_add_mod n 10
    simp only [Char.reduceToNat]
    omega

theorem digitChar_digitValue {c : Char} (digit : c.isDigit = true) :
    digitValue c < 10 ∧ Nat.digitChar (digitValue c) = c := by
  obtain ⟨low, high⟩ := Char.isDigit_iff_toNat.1 digit
  simp only [Char.reduceToNat] at low high
  have small : digitValue c < 10 := by
    simp only [digitValue, Char.reduceToNat]
    omega
  refine ⟨small, Char.toNat_inj.1 ?_⟩
  rw [Nat.toNat_digitChar_of_lt_ten small]
  simp only [digitValue, Char.reduceToNat]
  omega

/-- A text of digits is its value, written with as many digits. -/
theorem padded_digitsValue {text : List Char} (digits : ∀ c ∈ text, c.isDigit = true) :
    digitsValue text < 10 ^ text.length ∧ padded text.length (digitsValue text) = text := by
  induction text using List.reverseRecOn with
  | nil => exact ⟨Nat.one_pos, rfl⟩
  | append_singleton text c ih =>
    obtain ⟨front, last⟩ := List.forall_mem_append.1 digits
    obtain ⟨fits, written⟩ := ih front
    obtain ⟨small, char⟩ := digitChar_digitValue (last c (List.mem_singleton_self c))
    have quotient : (10 * digitsValue text + digitValue c) / 10 = digitsValue text := by omega
    have remainder : (10 * digitsValue text + digitValue c) % 10 = digitValue c := by omega
    rw [digitsValue_concat, List.length_append, List.length_singleton, padded, quotient, remainder,
      written, char, Nat.pow_succ]
    exact ⟨by omega, rfl⟩

/-- The texts of so many digits are the numbers that they have room for. -/
theorem isDigits_iff_exists_padded {width : Nat} {text : List Char} :
    (text.length = width ∧ ∀ c ∈ text, c.isDigit = true) ↔
      ∃ n, n < 10 ^ width ∧ text = padded width n := by
  constructor
  · rintro ⟨rfl, digits⟩
    obtain ⟨fits, written⟩ := padded_digitsValue digits
    exact ⟨digitsValue text, fits, written.symm⟩
  · rintro ⟨n, _, rfl⟩
    exact ⟨length_padded width n, isDigit_padded width n⟩

/-! Dates. -/

/-- A day as YYYY-MM-DD. -/
def isoDate (year month day : Nat) : List Char :=
  padded 4 year ++ '-' :: (padded 2 month ++ '-' :: padded 2 day)

/-- The year has room in four digits, the month and the day in two. -/
structure FitsDate (year month day : Nat) : Prop where
  year : year < 10 ^ 4
  month : month < 10 ^ 2
  day : day < 10 ^ 2

theorem dateParts?_isoDate {year month day : Nat} (fits : FitsDate year month day) :
    dateParts? (isoDate year month day) = some (year, month, day) := by
  have parts : dateParts? (isoDate year month day) =
      if (padded 4 year ++ (padded 2 month ++ padded 2 day)).all Char.isDigit then
        some (digitsValue (padded 4 year), digitsValue (padded 2 month), digitsValue (padded 2 day))
      else none := rfl
  have digits : (padded 4 year ++ (padded 2 month ++ padded 2 day)).all Char.isDigit = true := by
    rw [List.all_eq_true, List.forall_mem_append, List.forall_mem_append]
    exact ⟨isDigit_padded 4 year, isDigit_padded 2 month, isDigit_padded 2 day⟩
  rw [parts, if_pos digits, digitsValue_padded fits.year, digitsValue_padded fits.month,
    digitsValue_padded fits.day]

/-- The parts of a date are those that it is written from. -/
theorem dateParts?_eq_some_iff {text : List Char} {year month day : Nat} :
    dateParts? text = some (year, month, day) ↔
      FitsDate year month day ∧ text = isoDate year month day := by
  constructor
  · intro parts
    unfold dateParts? at parts
    split at parts
    · next y₁ y₂ y₃ y₄ m₁ m₂ d₁ d₂ =>
      split at parts
      · next digits =>
        cases parts
        have each : ∀ c ∈ [y₁, y₂, y₃, y₄] ++ ([m₁, m₂] ++ [d₁, d₂]), c.isDigit = true :=
          List.all_eq_true.1 digits
        obtain ⟨ofYear, behind⟩ := List.forall_mem_append.1 each
        obtain ⟨ofMonth, ofDay⟩ := List.forall_mem_append.1 behind
        obtain ⟨yearFits, year⟩ := padded_digitsValue ofYear
        obtain ⟨monthFits, month⟩ := padded_digitsValue ofMonth
        obtain ⟨dayFits, day⟩ := padded_digitsValue ofDay
        refine ⟨⟨yearFits, monthFits, dayFits⟩, ?_⟩
        rw [isoDate, show padded 4 _ = _ from year, show padded 2 _ = _ from month,
          show padded 2 _ = _ from day]
        rfl
      · cases parts
    · cases parts
  · rintro ⟨fits, rfl⟩
    exact dateParts?_isoDate fits

theorem isDate_iff {text : List Char} : isDate text = true ↔
    ∃ year month day, FitsDate year month day ∧ text = isoDate year month day := by
  simp only [isDate, Option.isSome_iff_exists, Prod.exists, dateParts?_eq_some_iff]

theorem isCalendarDate_iff {text : List Char} : isCalendarDate text = true ↔
    ∃ year month day, FitsDate year month day ∧ text = isoDate year month day ∧
      GregorianDay year month day := by
  have parts : isCalendarDate text = true ↔ ∃ year month day,
      dateParts? text = some (year, month, day) ∧ isCalendarDay year month day = true := by
    unfold isCalendarDate
    split <;> simp_all
  simp only [parts, dateParts?_eq_some_iff, isCalendarDay_iff, and_assoc]

end SearchBox
