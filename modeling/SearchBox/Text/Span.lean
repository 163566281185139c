/-! Stretches of a text, measured in bytes of its UTF-8 form. -/

namespace SearchBox

/-- Number of bytes of a text in UTF-8. -/
def byteWidth : List Char → Nat
  | [] => 0
  | c :: text => c.utf8Size + byteWidth text

structure Span where
  position : Nat
  length : Nat
  deriving DecidableEq, Repr

namespace Span

/-- The position just after the span. -/
def stop (span : Span) : Nat :=
  span.position + span.length

/-- The span from `start` up to `stop`, empty if `stop` lies before `start`. -/
def upTo (start stop : Nat) : Span :=
  ⟨start, stop - start⟩

end Span

end SearchBox
