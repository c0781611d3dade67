/-
Module: Rationale.Trace.Recording
Purpose: Computations that record rows as they run.
Main exports: Recording, Recording.enter, Recording.leave, Recording.importChild,
  Recording.flipped, Recording.inChild, Attempt, Recording.within, Recorder.append?
-/
import Rationale.Trace.Recorder

namespace Rationale

/-- A computation that records.  When it aborts, the recording stays as it is at that point. -/
abbrev Recording := EStateM Fault Recorder

/-- The outcome of a part and what there is to explain about it. -/
structure Attempt where
  outcome : Outcome Value
  detail : Option Detail := none
deriving Inhabited

namespace Recording

variable {α : Type}

/-- Goes on with a result or aborts with a fault. -/
def ofExcept : Except Fault α → Recording α
  | .ok value => pure value
  | .error fault => throw fault

/-- Tells an event. -/
def tell (event : Event) : Recording Unit :=
  modify (Recorder.tell event)

/-- Opens a row at the current level and gives its place. -/
def enter (draft : Draft) : Recording Handle := fun recorder =>
  .ok recorder.nextHandle (recorder.push draft)

/-- Closes the innermost open row with an outcome; any other row is refused.  Its line ends before
its place is looked at, and a place without an open row is refused as well. -/
def leave (handle : Handle) (outcome : Outcome Value) (detail : Option Detail) :
    Recording Unit := do
  let innermost := (← get).lineage.head?
  if innermost ≠ some handle then throw (.unbalanced innermost handle)
  modify Recorder.pop
  let recorder ← get
  match recorder.entries[handle]? with
  | some (.pending pending) =>
    set (recorder.fill handle (pending.close outcome (recorder.keep detail)))
  | _ => throw (.unbalanced none handle)

section Leaving

variable {recorder : Recorder} {handle : Handle} {outcome : Outcome Value} {detail : Option Detail}

theorem leave_of_other (other : recorder.lineage.head? ≠ some handle) :
    leave handle outcome detail recorder =
      .error (.unbalanced recorder.lineage.head? handle) recorder := by
  change (ite (recorder.lineage.head? ≠ some handle) _ _ : Recording Unit) recorder = _
  rw [if_pos other]
  rfl

theorem leave_of_innermost {pending : PendingRow}
    (innermost : recorder.lineage.head? = some handle)
    (isOpen : recorder.entries[handle]? = some (.pending pending)) :
    leave handle outcome detail recorder =
      .ok () (recorder.pop.fill handle (pending.close outcome (recorder.keep detail))) := by
  have place : recorder.pop.entries[handle]? = some (.pending pending) := isOpen
  change (ite (recorder.lineage.head? ≠ some handle) _ _ : Recording Unit) recorder = _
  rw [if_neg (not_not_intro innermost)]
  change (match recorder.pop.entries[handle]? with
    | some (.pending pending) =>
      set (recorder.pop.fill handle (pending.close outcome (recorder.keep detail)))
    | _ => throw (.unbalanced none handle) : Recording Unit) recorder.pop = _
  rw [place]
  rfl

end Leaving

/-- Toggles the polarity. -/
def flip : Recording Unit :=
  modify Recorder.flip

/-- Adds the rows in some places one by one, some levels further in, up to one that is open. -/
def addRows (offset : Nat) : List Entry → Recording Unit
  | [] => return
  | .closed row :: rest => do
    modify fun recorder => recorder.add (row.deepen offset)
    addRows offset rest
  | .pending _ :: _ => throw (.openRows 1)

/-- Appends a finished recording, its rows some levels further in and its events as they are. -/
def importChild (child : Recorder) (offset : Nat) : Recording Unit := do
  if child.lineage ≠ [] then throw (.openRows child.lineage.length)
  addRows offset child.entries.toList
  modify (Recorder.tellAll child.journal)

section Importing

variable {recorder child : Recorder} {offset : Nat}

theorem importChild_of_open (unfinished : child.lineage ≠ []) :
    importChild child offset recorder = .error (.openRows child.lineage.length) recorder := by
  rw [importChild, if_pos unfinished]
  rfl

theorem importChild_of_ended {after : Recorder} (ended : child.lineage = [])
    (added : addRows offset child.entries.toList recorder = .ok () after) :
    importChild child offset recorder = .ok () (after.tellAll child.journal) := by
  rw [importChild, if_neg (not_not_intro ended)]
  simp only [bind, EStateM.bind, added]
  rfl

end Importing

/-- Runs a computation under the other polarity, which ends with it, also when it aborts. -/
def flipped (body : Recording α) : Recording α := fun recorder =>
  match body recorder.flip with
  | .ok value after => .ok value after.flip
  | .error fault after => .error fault after.flip

/-- Runs a computation under the other polarity if a condition holds, and otherwise as it is. -/
def flippedIf (condition : Bool) (body : Recording α) : Recording α :=
  if condition then flipped body else body

/-- Runs a computation in a recording of its own and appends that at the current level. -/
def inChild (body : Recording α) : Recording α := fun recorder =>
  match body recorder.child with
  | .error fault _ => .error fault recorder
  | .ok value child =>
    match importChild child recorder.level recorder with
    | .ok _ after => .ok value after
    | .error fault after => .error fault after

/-- Runs a computation inside a row, which closes with the outcome. -/
def within (draft : Draft) (body : Recording Attempt) : Recording (Outcome Value) := do
  let handle ← enter draft
  let attempt ← body
  leave handle attempt.outcome attempt.detail
  return attempt.outcome

end Recording

/-- The recorder after a finished recording was appended to it, or the fault of doing so. -/
def Recorder.append? (recorder part : Recorder) (offset : Nat) : Except Fault Recorder :=
  match Recording.importChild part offset recorder with
  | .ok _ after => .ok after
  | .error fault _ => .error fault

end Rationale
