import SearchBox.Calendar

/-! Shapes of literal values. A number is decimal digits with an optional sign and an optional
fraction; a date is written YYYY-MM-DD; digits are those of ASCII. -/

namespace SearchBox

/-- Digits, then optionally a point and more digits. -/
def isUnsignedNumber (text : List Char) : Bool :=
  let whole := text.takeWhile Char.isDigit
  !whole.isEmpty &&
    match text.dropWhile Char.isDigit with
    | [] => true
    | c :: fraction => c == '.' && !fraction.isEmpty && fraction.all Char.isDigit

def isNumber : List Char → Bool
  | [] => false
  | c :: text => isUnsignedNumber (if c = '+' ∨ c = '-' then text else c :: text)

def digitValue (c : Char) : Nat :=
  c.toNat - '0'.toNat

/-- The number written by a row of decimal digits. -/
def digitsValue (digits : List Char) : Nat :=
  digits.foldl (fun value c => 10 * value + digitValue c) 0

/-- Year, month and day of a text of the shape YYYY-MM-DD. -/
def dateParts? : List Char → Option (Nat × Nat × Nat)
  | [y₁, y₂, y₃, y₄, '-', m₁, m₂, '-', d₁, d₂] =>
    if [y₁, y₂, y₃, y₄, m₁, m₂, d₁, d₂].all Char.isDigit then
      some (digitsValue [y₁, y₂, y₃, y₄], digitsValue [m₁, m₂], digitsValue [d₁, d₂])
    else none
  | _ => none

def isDate (text : List Char) : Bool :=
  (dateParts? text).isSome

/-- A date of the right shape that names a day of the calendar. -/
def isCalendarDate (text : List Char) : Bool :=
  match dateParts? text with
  | some (year, month, day) => isCalendarDay year month day
  | none => false

end SearchBox
