/-
Module: Rationale.Proofs.Neutrality
Purpose: Settings decide about the details in a trace and about nothing else.
Main exports: Row.withoutDetails, Evaluation.SameButDetails, Tree.evaluate_neutral
-/
import Rationale.Proofs.Following
import Rationale.Proofs.Mirrors

namespace Rationale

/-- The row without its details, as if there were nothing to explain. -/
def Row.withoutDetails (row : Row) : Row :=
  { row with
    expected := { row.expected with detail := none }
    actual := { row.actual with detail := none }
    requiresExplanation := false }

/-- Two evaluations under settings of their own: whatever these are, they differ in the details of
rows at most. -/
structure Evaluation.SameButDetails (first second : Settings) (one other : Evaluation) : Prop where
  /-- Result and origin are the same. -/
  outcome : one.outcome = other.outcome
  /-- There are as many rows, and they have all but details in common. -/
  rows : one.trace.map Row.withoutDetails = other.trace.map Row.withoutDetails
  /-- Details are the same as well if both or neither are suppressed. -/
  details : first.suppressDetails = second.suppressDetails → one.trace = other.trace
  /-- Suppressing details takes them away and leaves the rest of every row as it is. -/
  suppressed : first.suppressDetails = true → one.trace = other.trace.map Row.withoutDetails

section Rows

variable {first second settings : Settings} {flipped : Bool} {draft : Draft} {attempt : Attempt}

/-- Without its details a row is the same under all settings. -/
theorem Draft.withoutDetails_row :
    (draft.row first flipped attempt).withoutDetails =
      (draft.row second flipped attempt).withoutDetails := rfl

theorem Draft.row_congr (same : first.suppressDetails = second.suppressDetails) :
    draft.row first flipped attempt = draft.row second flipped attempt := by
  rw [row, row, same]
  rfl

theorem Draft.row_of_suppressed (suppressed : settings.suppressDetails = true) :
    draft.row settings flipped attempt = (draft.row settings flipped attempt).withoutDetails := by
  rw [row, if_pos suppressed]
  rfl

/-- Twins under one polarity are rows of the same attempt. -/
theorem Row.Twins.exists_attempt {row other : Row}
    (twins : Row.Twins first second false row other) :
    ∃ draft flipped attempt, row = Draft.row first flipped draft attempt ∧
      other = draft.row second flipped attempt := by
  obtain ⟨draft, flipped, attempt, further, -, same, rfl, rfl⟩ := twins
  rw [Bool.bne_false, ← same rfl]
  exact ⟨draft, flipped, attempt, rfl, rfl⟩

/-- What two rows of one attempt have in common at every level, the rows of mirrored forests have
in common. -/
theorem Forest.Mirrors.map_rows {forest other : Forest} {f g : Row → Row}
    (mirrors : forest.Mirrors (Row.Twins first second false) other)
    (each : ∀ (draft : Draft) flipped attempt level,
      f ((draft.row first flipped attempt).atLevel level) =
        g ((draft.row second flipped attempt).atLevel level)) (level : Nat) :
    (forest.rows level).map f = (other.rows level).map g := by
  induction mirrors generalizing level with
  | nil => rfl
  | cons here _ _ inside beside =>
      obtain ⟨draft, flipped, attempt, rfl, rfl⟩ := here.exists_attempt
      rw [rows, rows, List.map_cons, List.map_cons, List.map_append, List.map_append, inside,
        beside, each]

end Rows

namespace Tree

/-- Under any two settings, a tree is refused for one fault, or comes to one outcome with the same
rows but for their details, which only the suppression of details decides about. -/
theorem evaluate_neutral (first second : Settings) (tree : Tree) (input : Value) :
    Alike (Evaluation.SameButDetails first second) (tree.evaluate first input)
      (tree.evaluate second input) := by
  rw [evaluate_eq_account, evaluate_eq_account]
  cases tree.validate with
  | error fault => exact .error fault
  | ok _ =>
      have alike : Alike (Account.Mirrors (Row.Twins first second false))
          (tree.account first false (some input)) (tree.account second false (some input)) :=
        tree.account_alike false (some input)
      refine alike.map fun account other mirrors => ?_
      constructor
      · exact mirrors.outcome
      · exact mirrors.forest.map_rows
          (fun draft flipped attempt level =>
            congrArg (Row.atLevel level) Draft.withoutDetails_row) 0
      · intro same
        have rows := mirrors.forest.map_rows (f := id) (g := id)
          (fun draft flipped attempt level =>
            congrArg (Row.atLevel level) (Draft.row_congr same)) 0
        rwa [List.map_id, List.map_id] at rows
      · intro suppressed
        have rows := mirrors.forest.map_rows (f := id) (g := Row.withoutDetails)
          (fun draft flipped attempt level =>
            congrArg (Row.atLevel level) (Draft.row_of_suppressed suppressed)) 0
        rwa [List.map_id] at rows

end Tree

end Rationale
