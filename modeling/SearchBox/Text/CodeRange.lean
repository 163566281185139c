/-! Character classes given as tables of code point ranges. -/

namespace SearchBox

/-- Pairs of a first and a last code point, both included. -/
abbrev CodeRanges := List (Nat × Nat)

def CodeRanges.contains (ranges : CodeRanges) (c : Char) : Bool :=
  ranges.any fun range => decide (range.1 ≤ c.toNat) && decide (c.toNat ≤ range.2)

end SearchBox
