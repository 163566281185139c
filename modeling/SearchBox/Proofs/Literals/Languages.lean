import Mathlib
import SearchBox.Proofs.Literals
import SearchBox.Proofs.Literals.Dates
import SearchBox.Token.Lexer
import SearchBox.Tree.Typing

/-! The languages of literals. Numbers and dates are what two regular expressions match, which have no
text in common; the values of a type are the words of its language, and of the dates those that the
Gregorian calendar has. -/

namespace SearchBox

namespace Pattern

open RegularExpression

def oneOf (chars : List Char) : RegularExpression Char :=
  (chars.map char).sum

def optional (pattern : RegularExpression Char) : RegularExpression Char :=
  1 + pattern

def digit : RegularExpression Char :=
  oneOf "0123456789".toList

/-- `[0-9]+` -/
def digits : RegularExpression Char :=
  digit * digit.star

/-- `[+-]?[0-9]+(\.[0-9]+)?` -/
def number : RegularExpression Char :=
  optional (oneOf ['+', '-']) * digits * optional (char '.' * digits)

/-- `[0-9]{4}-[0-9]{2}-[0-9]{2}` -/
def date : RegularExpression Char :=
  digit ^ 4 * char '-' * digit ^ 2 * char '-' * digit ^ 2

/-- A word in lower case, with any of its letters in upper case. -/
def anyCase (word : List Char) : RegularExpression Char :=
  (word.map fun c => oneOf [c, c.toUpper]).prod

/-- `true` or `false`, in any case of the letters. -/
def truthValue : RegularExpression Char :=
  anyCase "true".toList + anyCase "false".toList

variable {text : List Char}

theorem mem_oneOf {chars : List Char} :
    text ∈ (oneOf chars).matches' ↔ ∃ c ∈ chars, text = [c] := by
  induction chars with
  | nil => exact iff_of_false (Set.notMem_empty text) (by simp)
  | cons c chars ih =>
    rw [oneOf] at ih
    rw [oneOf, List.map_cons, List.sum_cons, matches'_add, Language.mem_add, ih]
    simp only [matches'_char, List.mem_cons, exists_eq_or_imp]
    exact Iff.rfl

theorem mem_optional {pattern : RegularExpression Char} :
    text ∈ (optional pattern).matches' ↔ text = [] ∨ text ∈ pattern.matches' := by
  rw [optional, matches'_add, Language.mem_add]
  exact Iff.rfl

theorem mem_digit : text ∈ digit.matches' ↔ ∃ c : Char, c.isDigit = true ∧ text = [c] := by
  have listed (c : Char) : c ∈ "0123456789".toList ↔ c.isDigit = true := by
    constructor
    · exact List.all_eq_true.1 (by decide : "0123456789".toList.all Char.isDigit = true) c
    · intro isDigit
      obtain ⟨low, high⟩ := Char.isDigit_iff_toNat.1 isDigit
      rw [← Char.ofNat_toNat c]
      generalize c.toNat = code at low high
      exact (by decide : ∀ code ≤ '9'.toNat, '0'.toNat ≤ code →
        Char.ofNat code ∈ "0123456789".toList) code high low
  rw [digit, mem_oneOf]
  simp only [listed]

/-- A row of single digits is a text of digits, one for each. -/
theorem flatten_digits {parts : List (List Char)} (each : ∀ part ∈ parts, part ∈ digit.matches') :
    parts.flatten.length = parts.length ∧ ∀ c ∈ parts.flatten, c.isDigit = true := by
  induction parts with
  | nil => exact ⟨rfl, List.forall_mem_nil _⟩
  | cons part parts ih =>
    obtain ⟨here, later⟩ := List.forall_mem_cons.1 each
    obtain ⟨c, isDigit, rfl⟩ := mem_digit.1 here
    obtain ⟨length, digits⟩ := ih later
    exact ⟨congrArg (· + 1) length, List.forall_mem_cons.2 ⟨isDigit, digits⟩⟩

theorem exists_flatten_digits (allDigits : ∀ c ∈ text, c.isDigit = true) :
    ∃ parts : List (List Char), text = parts.flatten ∧ parts.length = text.length ∧
      ∀ part ∈ parts, part ∈ digit.matches' := by
  refine ⟨text.map fun c => [c], ?_, List.length_map _, ?_⟩
  · rw [← List.flatMap_def, List.flatMap_singleton']
  · intro part member
    obtain ⟨c, inside, rfl⟩ := List.mem_map.1 member
    exact mem_digit.2 ⟨c, allDigits c inside, rfl⟩

theorem mem_digit_pow {count : Nat} : text ∈ (digit ^ count).matches' ↔
    text.length = count ∧ ∀ c ∈ text, c.isDigit = true := by
  rw [matches'_pow, Language.mem_pow]
  constructor
  · rintro ⟨parts, rfl, rfl, each⟩
    exact flatten_digits each
  · rintro ⟨rfl, allDigits⟩
    exact exists_flatten_digits allDigits

theorem mem_digits : text ∈ digits.matches' ↔ IsDigits text := by
  rw [digits, matches'_mul, matches'_star, Language.mem_mul]
  constructor
  · rintro ⟨first, here, later, ⟨parts, rfl, each⟩, rfl⟩
    obtain ⟨c, isDigit, rfl⟩ := mem_digit.1 here
    exact ⟨List.cons_ne_nil _ _, List.forall_mem_cons.2 ⟨isDigit, (flatten_digits each).2⟩⟩
  · rintro ⟨nonempty, allDigits⟩
    obtain ⟨c, later, rfl⟩ := List.exists_cons_of_ne_nil nonempty
    obtain ⟨here, behind⟩ := List.forall_mem_cons.1 allDigits
    obtain ⟨parts, split, _, each⟩ := exists_flatten_digits behind
    exact ⟨[c], mem_digit.2 ⟨c, here, rfl⟩, later, ⟨parts, split, each⟩, rfl⟩

theorem mem_number : text ∈ number.matches' ↔ IsDecimal text := by
  simp only [number, matches'_mul, Language.mem_mul, mem_optional, mem_oneOf, mem_digits,
    matches'_char]
  constructor
  · rintro ⟨_, ⟨sign, signed, whole, digits, rfl⟩, fraction, tail, rfl⟩
    refine ⟨sign, whole, fraction, List.append_assoc _ _ _, ?_, digits, ?_⟩
    · simpa using signed
    · rcases tail with rfl | ⟨_, rfl, more, digits', rfl⟩
      · exact .inl rfl
      · exact .inr ⟨more, rfl, digits'⟩
  · rintro ⟨sign, whole, fraction, rfl, signed, digits, tail⟩
    refine ⟨sign ++ whole, ⟨sign, ?_, whole, digits, rfl⟩, fraction, ?_, List.append_assoc _ _ _⟩
    · simpa using signed
    · rcases tail with rfl | ⟨more, rfl, digits'⟩
      · exact .inl rfl
      · exact .inr ⟨['.'], rfl, more, digits', rfl⟩

theorem mem_date : text ∈ date.matches' ↔
    ∃ year month day, FitsDate year month day ∧ text = isoDate year month day := by
  simp only [date, matches'_mul, mul_assoc, Language.mem_mul, mem_digit_pow, matches'_char,
    isDigits_iff_exists_padded]
  constructor
  · rintro ⟨_, ⟨year, yearFits, rfl⟩, _, ⟨_, rfl, _, ⟨_, ⟨month, monthFits, rfl⟩, _,
      ⟨_, rfl, _, ⟨day, dayFits, rfl⟩, rfl⟩, rfl⟩, rfl⟩, rfl⟩
    exact ⟨year, month, day, ⟨yearFits, monthFits, dayFits⟩, rfl⟩
  · rintro ⟨year, month, day, fits, rfl⟩
    exact ⟨_, ⟨year, fits.year, rfl⟩, _, ⟨['-'], rfl, _, ⟨_, ⟨month, fits.month, rfl⟩, _,
      ⟨['-'], rfl, _, ⟨day, fits.day, rfl⟩, rfl⟩, rfl⟩, rfl⟩, rfl⟩

/-- Only a letter and its capital have the letter as their lower case. -/
theorem toLower_eq_iff {c d : Char} (lower : d.isLower = true) :
    c.toLower = d ↔ c = d ∨ c = d.toUpper := by
  have same : d.toLower = d := Char.toLower_eq_of_not_isUpper (Char.not_isUpper_of_isLower lower)
  constructor
  · rintro rfl
    by_cases upper : c.isUpper = true
    · right
      rw [Char.toUpper_toLower_eq_toUpper,
        Char.toUpper_eq_of_not_isLower (Char.not_isLower_of_isUpper upper)]
    · exact .inl (Char.toLower_eq_of_not_isUpper upper).symm
  · rintro (rfl | rfl)
    · exact same
    · rw [Char.toLower_toUpper_eq_toLower, same]

theorem mem_anyCase {word : List Char} (lower : ∀ c ∈ word, c.isLower = true) :
    text ∈ (anyCase word).matches' ↔ text.map Char.toLower = word := by
  induction word generalizing text with
  | nil => simp [anyCase]
  | cons d word ih =>
    obtain ⟨here, later⟩ := List.forall_mem_cons.1 lower
    rw [anyCase] at ih
    rw [anyCase, List.map_cons, List.prod_cons, matches'_mul, Language.mem_mul]
    constructor
    · rintro ⟨first, inside, behind, rest, rfl⟩
      obtain ⟨c, either, rfl⟩ := mem_oneOf.1 inside
      have same : c.toLower = d := (toLower_eq_iff here).2 (by simpa using either)
      rw [List.singleton_append, List.map_cons, same, (ih later).1 rest]
    · intro same
      obtain ⟨c, behind, rfl, lowered, rest⟩ := List.map_eq_cons_iff.1 same
      refine ⟨[c], mem_oneOf.2 ⟨c, ?_, rfl⟩, behind, (ih later).2 rest, rfl⟩
      simpa using (toLower_eq_iff here).1 lowered

end Pattern

theorem IsDecimal.minus_notMem_tail {text : List Char} (decimal : IsDecimal text) :
    '-' ∉ text.tail := by
  obtain ⟨sign, whole, fraction, rfl, signed, digits, tail⟩ := decimal
  have noDigit {part : List Char} (ofDigits : IsDigits part) : '-' ∉ part := fun minus =>
    absurd (ofDigits.2 '-' minus) (by decide)
  have unsigned : '-' ∉ whole ++ fraction := by
    rw [List.mem_append, not_or]
    refine ⟨noDigit digits, ?_⟩
    rcases tail with rfl | ⟨more, rfl, digits'⟩
    · exact List.not_mem_nil
    · rw [List.mem_cons, not_or]
      exact ⟨by decide, noDigit digits'⟩
  simp only [List.mem_cons, List.not_mem_nil, or_false] at signed
  rcases signed with rfl | rfl | rfl
  · exact fun minus => unsigned (List.mem_of_mem_tail minus)
  · exact unsigned
  · exact unsigned

theorem minus_mem_tail_isoDate (year month day : Nat) : '-' ∈ (isoDate year month day).tail := by
  have four : padded 4 year ≠ [] := List.ne_nil_of_length_pos (by rw [length_padded]; decide)
  rw [isoDate, List.tail_append_of_ne_nil four]
  exact List.mem_append_right _ List.mem_cons_self

/-- No number has a minus behind its first character, and every date has one. -/
theorem isDate_eq_false_of_isNumber {text : List Char} (number : isNumber text = true) :
    isDate text = false := by
  rw [Bool.eq_false_iff]
  intro date
  obtain ⟨year, month, day, _, rfl⟩ := isDate_iff.1 date
  exact (isNumber_iff.1 number).minus_notMem_tail (minus_mem_tail_isoDate year month day)

namespace LexicalContext

variable {text : List Char}

theorem literalKind_eq_number_iff : literalKind text = .number ↔ isNumber text = true := by
  unfold literalKind
  split
  · next number => exact iff_of_true rfl number
  · next other => exact iff_of_false (by split <;> simp) other

theorem literalKind_eq_date_iff : literalKind text = .date ↔ isDate text = true := by
  unfold literalKind
  split
  · next number => exact iff_of_false (by simp) (by simp [isDate_eq_false_of_isNumber number])
  · split
    · next date => exact iff_of_true rfl date
    · next other => exact iff_of_false (by simp) other

theorem literalKind_eq_value_iff : literalKind text = .value ↔
    ¬isNumber text = true ∧ ¬isDate text = true := by
  unfold literalKind
  split
  · next number => exact iff_of_false (by simp) fun neither => neither.1 number
  · next noNumber =>
    split
    · next date => exact iff_of_false (by simp) fun neither => neither.2 date
    · next noDate => exact iff_of_true rfl ⟨noNumber, noDate⟩

end LexicalContext

theorem sameIgnoringAsciiCase_iff {text word : List Char} (lower : ∀ c ∈ word, c.isLower = true) :
    sameIgnoringAsciiCase text word = true ↔ text ∈ (Pattern.anyCase word).matches' := by
  have same : word.map Char.toLower = word :=
    List.map_congr_left (fun c member => (Pattern.toLower_eq_iff (lower c member)).2 (.inl rfl))
      |>.trans (List.map_id word)
  rw [sameIgnoringAsciiCase, beq_iff_eq, same, Pattern.mem_anyCase lower]

/-- Literals are told apart by their languages. A text in the place of a value is a number or a date just
if the pattern of numbers or of dates matches it, which no text does for both, and a plain value
otherwise. What a number field takes is the language of numbers, what a boolean field takes is the two
words in any case, and what a date field takes is the dates that write a day of the Gregorian calendar. -/
theorem literals_regular (text : List Char) :
    ¬(text ∈ Pattern.number.matches' ∧ text ∈ Pattern.date.matches') ∧
    (LexicalContext.literalKind text = .number ↔ text ∈ Pattern.number.matches') ∧
    (LexicalContext.literalKind text = .date ↔ text ∈ Pattern.date.matches') ∧
    (LexicalContext.literalKind text = .value ↔
      text ∉ Pattern.number.matches' ∧ text ∉ Pattern.date.matches') ∧
    (FieldType.number.accepts text = true ↔ text ∈ Pattern.number.matches') ∧
    (FieldType.boolean.accepts text = true ↔ text ∈ Pattern.truthValue.matches') ∧
    (FieldType.date.accepts text = true ↔ text ∈ Pattern.date.matches' ∧
      ∃ year month day, FitsDate year month day ∧ text = isoDate year month day ∧
        GregorianDay year month day) := by
  have number : text ∈ Pattern.number.matches' ↔ isNumber text = true :=
    Pattern.mem_number.trans isNumber_iff.symm
  have date : text ∈ Pattern.date.matches' ↔ isDate text = true :=
    Pattern.mem_date.trans isDate_iff.symm
  have boolean : FieldType.boolean.accepts text = true ↔ text ∈ Pattern.truthValue.matches' := by
    have lowerTrue := List.all_eq_true.1 (by decide : "true".toList.all Char.isLower = true)
    have lowerFalse := List.all_eq_true.1 (by decide : "false".toList.all Char.isLower = true)
    rw [FieldType.accepts, Bool.or_eq_true, sameIgnoringAsciiCase_iff lowerTrue,
      sameIgnoringAsciiCase_iff lowerFalse, Pattern.truthValue, RegularExpression.matches'_add,
      Language.mem_add]
  have day : FieldType.date.accepts text = true ↔ isDate text = true ∧
      ∃ year month day, FitsDate year month day ∧ text = isoDate year month day ∧
        GregorianDay year month day := by
    rw [FieldType.accepts, isCalendarDate_iff, iff_and_self]
    rintro ⟨year, month, day, fits, written, _⟩
    exact isDate_iff.2 ⟨year, month, day, fits, written⟩
  rw [number, date]
  refine ⟨?_, LexicalContext.literalKind_eq_number_iff, LexicalContext.literalKind_eq_date_iff,
    LexicalContext.literalKind_eq_value_iff, Iff.rfl, boolean, day⟩
  rintro ⟨isNumber, isDate⟩
  rw [isDate_eq_false_of_isNumber isNumber] at isDate
  cases isDate

example : ["1.", "+-1", "1e3", "\u0663", "2024-1-31"].map
    (fun text => LexicalContext.literalKind text.toList) = List.replicate 5 .value := by
  decide

end SearchBox
