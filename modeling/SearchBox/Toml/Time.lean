import SearchBox.Text.Literal

/-! Dates and times of a TOML document. -/

namespace SearchBox.Toml

/-- Whether the text is hours and minutes of a day. -/
def isHourMinute : List Char → Bool
  | [h₁, h₂, ':', m₁, m₂] =>
    [h₁, h₂, m₁, m₂].all Char.isDigit && decide (digitsValue [h₁, h₂] < 24) &&
      decide (digitsValue [m₁, m₂] < 60)
  | _ => false

/-- Whether the text is seconds with an optional fraction, after a colon. A minute may have a leap
second. -/
def isSeconds : List Char → Bool
  | ':' :: s₁ :: s₂ :: fraction =>
    s₁.isDigit && s₂.isDigit && decide (digitsValue [s₁, s₂] ≤ 60) &&
      match fraction with
      | [] => true
      | c :: digits => c == '.' && !digits.isEmpty && digits.all Char.isDigit
  | _ => false

def isTimeOfDay (text : List Char) : Bool :=
  isHourMinute (text.take 5) && isSeconds (text.drop 5)

/-- Whether the text is a time of day, with or without its distance from universal time. -/
def isOffsetTime (text : List Char) : Bool :=
  let isOffsetMark (c : Char) : Bool := ['Z', 'z', '+', '-'].contains c
  isTimeOfDay (text.takeWhile fun c => !isOffsetMark c) &&
    match text.dropWhile fun c => !isOffsetMark c with
    | [] => true
    | mark :: offset =>
      if mark == 'Z' || mark == 'z' then offset.isEmpty else isHourMinute offset

/-- Whether the text is a date, a time of day, or both. -/
def isTime (text : List Char) : Bool :=
  isTimeOfDay text ||
    isCalendarDate (text.take 10) &&
      match text.drop 10 with
      | [] => true
      | mark :: time => (mark == 'T' || mark == 't') && isOffsetTime time

end SearchBox.Toml
