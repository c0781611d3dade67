/-
Module: Rationale.Text.Ranges
Purpose: Sets of characters given by runs of code points.
Main exports: Text.Ranges, Text.Ranges.has
-/

namespace Rationale.Text

/-- A set of code points as runs, each with its first and its last member. -/
abbrev Ranges := List (Nat × Nat)

/-- Whether a character lies in one of the runs. -/
def Ranges.has (ranges : Ranges) (c : Char) : Bool :=
  ranges.any fun (first, last) => first ≤ c.toNat && c.toNat ≤ last

theorem Ranges.has_iff {ranges : Ranges} {c : Char} :
    ranges.has c = true ↔ ∃ run ∈ ranges, run.1 ≤ c.toNat ∧ c.toNat ≤ run.2 := by
  simp [Ranges.has]

end Rationale.Text
