/-! Edit distance between two texts: the least number of insertions, deletions and substitutions of
single characters that turns one into the other. The table is filled row by row. -/

namespace SearchBox

/-- The entries of a row to the right of `left`, where `corner :: above` is the row above from the
column of `left` on and `target` the characters of the columns still to fill. -/
def editRowFrom (c : Char) : List Char → Nat → List Nat → Nat → List Nat
  | t :: target, corner, up :: above, left =>
    let entry := min (min (up + 1) (left + 1)) (corner + if c = t then 0 else 1)
    entry :: editRowFrom c target up above entry
  | _, _, _, _ => []

/-- The row for one more character `c` of the source. -/
def nextEditRow (target : List Char) (row : List Nat) (c : Char) : List Nat :=
  match row with
  | [] => []
  | corner :: above => (corner + 1) :: editRowFrom c target corner above (corner + 1)

def editDistance (source target : List Char) : Nat :=
  let row := source.foldl (nextEditRow target) (List.range (target.length + 1))
  row.getLast?.getD 0

end SearchBox
