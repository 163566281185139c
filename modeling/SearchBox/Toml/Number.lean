import SearchBox.Text.Literal

/-! Numbers of a TOML document. Integers may be of any size here; a number with a fraction or an
exponent has to be one that a double can hold. -/

namespace SearchBox.Toml

def hexDigitValue? (c : Char) : Option Nat :=
  if c.isDigit then some (digitValue c)
  else if 'a' ≤ c ∧ c ≤ 'f' then some (c.toNat - 'a'.toNat + 10)
  else if 'A' ≤ c ∧ c ≤ 'F' then some (c.toNat - 'A'.toNat + 10)
  else none

/-- Digits with underscores between them, without the underscores. -/
def dropUnderscores? (isDigit : Char → Bool) (text : List Char) : Option (List Char) :=
  let groups := text.splitOn '_'
  if groups.all fun group => !group.isEmpty && group.all isDigit then some groups.flatten else none

/-- The digits of a whole number, which has no leading zero. -/
def wholeDigits? (text : List Char) : Option (List Char) := do
  let digits ← dropUnderscores? Char.isDigit text
  guard (digits.length == 1 || digits.head? != some '0')
  return digits

def valueInBase? (base : Nat) (text : List Char) : Option Nat := do
  let isDigit (c : Char) : Bool := (hexDigitValue? c).any fun value => decide (value < base)
  let digits ← dropUnderscores? isDigit text
  let values ← digits.mapM hexDigitValue?
  return values.foldl (fun number value => base * number + value) 0

/-- An integer of any size; only decimal ones have a sign. -/
def integer? : List Char → Option Int
  | '0' :: 'x' :: text => (valueInBase? 16 text).map Int.ofNat
  | '0' :: 'o' :: text => (valueInBase? 8 text).map Int.ofNat
  | '0' :: 'b' :: text => (valueInBase? 2 text).map Int.ofNat
  | '+' :: text => (wholeDigits? text).map fun digits => Int.ofNat (digitsValue digits)
  | '-' :: text => (wholeDigits? text).map fun digits => -Int.ofNat (digitsValue digits)
  | text => (wholeDigits? text).map fun digits => Int.ofNat (digitsValue digits)

def dropSign : List Char → List Char
  | '+' :: text => text
  | '-' :: text => text
  | text => text

/-- The exponent that stands, with its mark, at the end of a number. -/
def exponent? : List Char → Option Int
  | [] => none
  | mark :: text => do
    guard (mark == 'e' || mark == 'E')
    let size := Int.ofNat (digitsValue (← dropUnderscores? Char.isDigit (dropSign text)))
    return if text.head? == some '-' then -size else size

/-- The digits and the power of ten of an unsigned number with a fraction, an exponent or both. -/
def scientific? (text : List Char) : Option (List Char × Int) := do
  let notMark (c : Char) : Bool := c != '.' && c != 'e' && c != 'E'
  let whole ← wholeDigits? (text.takeWhile notMark)
  match text.dropWhile notMark with
  | '.' :: rest =>
    let fraction ← dropUnderscores? Char.isDigit (rest.takeWhile notMark)
    let power ←
      match rest.dropWhile notMark with
      | [] => some 0
      | mark => exponent? mark
    return (whole ++ fraction, power - fraction.length)
  | mark => return (whole, ← exponent? mark)

/-- The least number that is rounded to no finite double: it lies half a unit in the last place above
the greatest one. -/
def doubleBound : Nat :=
  Nat.pow 2 1024 - Nat.pow 2 970

/-- Whether `digits` times ten to the given power is too large for a double. The bound has 309
digits, so only numbers of that many digits are computed. -/
def exceedsDouble (digits : List Char) (power : Int) : Bool :=
  let significant := digits.dropWhile (· == '0')
  let size := significant.length + power
  if significant.isEmpty || decide (size < 309) then false
  else if 309 < size then true
  else
    decide (doubleBound * Nat.pow 10 (-power).toNat ≤
      digitsValue significant * Nat.pow 10 power.toNat)

/-- Whether the text is a number with a fraction or an exponent, or one of the words for values that
are no numbers. A number too large for a double is refused, but one too far below zero is not. -/
def isFloat (text : List Char) : Bool :=
  let unsigned := dropSign text
  unsigned == "inf".toList || unsigned == "nan".toList ||
    match scientific? unsigned with
    | none => false
    | some (digits, power) => text.head? == some '-' || !exceedsDouble digits power

end SearchBox.Toml
