import SearchBox.Diagnostic

/-! Joining the diagnostics about the structure of a query with those about its schema. -/

namespace SearchBox

/-- The diagnostics of both lists in the order of their positions, those of one position in the
order given, structural ones first. A schema diagnostic on exactly the span of a structural one
says nothing new and is left out. -/
def mergeDiagnostics (structural schematic : List Diagnostic) : List Diagnostic :=
  let news := schematic.filter fun diagnostic =>
    !structural.any fun taken => decide (taken.span = diagnostic.span)
  (structural ++ news).mergeSort fun first second =>
    decide (first.span.position ≤ second.span.position)

end SearchBox
