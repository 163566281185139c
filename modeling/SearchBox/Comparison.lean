/-! Comparisons of a field with a value. -/

namespace SearchBox

inductive Comparison where
  | atLeast
  | above
  | atMost
  | below
  deriving DecidableEq, Repr

def Comparison.symbol : Comparison → String
  | .atLeast => ">="
  | .above => ">"
  | .atMost => "<="
  | .below => "<"

/-- What a range clause asks of its field: one bound, or two. -/
inductive RangeOperator where
  | bound (comparison : Comparison)
  | between
  deriving DecidableEq, Repr

def RangeOperator.symbol : RangeOperator → String
  | .bound comparison => comparison.symbol
  | .between => "BETWEEN"

def RangeOperator.all : List RangeOperator :=
  [.bound .atLeast, .bound .above, .bound .atMost, .bound .below, .between]

/-- What stands in a query where a range is written: a comparison, or the dots between two bounds. -/
inductive RangeMark where
  | bound (comparison : Comparison)
  | span
  deriving DecidableEq, Repr

def RangeMark.symbol : RangeMark → String
  | .bound comparison => comparison.symbol
  | .span => ".."

end SearchBox
