/-
Module: Rationale.Report.Merge
Purpose: Merging of stage rows with the rows that carry their content.
Main exports: Row.absorbs, Row.absorb, mergeStages
-/
import Rationale.Trace.Row

namespace Rationale

/-!
A stage of a transformation and the part that does its work make two rows.  Where the part is the
direct child and the very next row, the two are merged into one, which keeps the input of the
stage and takes over the output of the part.  A merged row takes part in no further merge.
-/

/-- Whether a checking stage may be merged with a part of this kind. -/
def Kind.isCheckContent : Kind → Bool
  | .leaf | .negation | .conjunction | .disjunction | .transform => true
  | _ => false

namespace Row

/-- Whether a row may be merged with the one that follows it.  Levels have no bound here; where they
are counted in 64 bits, this is the answer for a first row below the greatest level. -/
def absorbs (first second : Row) : Bool :=
  first.mergeable && second.level == first.level + 1 &&
    match first.kind with
    | .transform => second.kind == .function && !second.continued
    | .check => second.kind.isCheckContent
    | _ => false

/-- One side of a merged row; the detail comes from the row that has to be explained, and of two
such rows from the second. -/
def absorbSide (first second : Row) (side : Row → Side) : Side where
  input := (side first).input
  output := (side second).output
  detail := (side (if second.requiresExplanation then second else first)).detail

/-- The row that stands for two. -/
def absorb (first second : Row) : Row where
  form := first.form ++ ":" ++ second.form
  level := first.level
  kind := first.kind
  continued := first.continued
  expected := absorbSide first second Row.expected
  actual := absorbSide first second Row.actual
  requiresExplanation := first.requiresExplanation || second.requiresExplanation
  mergeable := false
  ignored := first.ignored && second.ignored

end Row

/-- Merges rows from left to right wherever one absorbs the next. -/
def mergeStages : Trace → Trace
  | [] => []
  | [row] => [row]
  | first :: second :: rest =>
    if first.absorbs second then first.absorb second :: mergeStages rest
    else first :: mergeStages (second :: rest)

end Rationale
