/-
Module: Rationale.Trace.Recorder
Purpose: The state of a recording and its changes.
Main exports: Draft, PendingRow, Entry, Event, Recorder, Recorder.push, Recorder.pop,
  Recorder.fill, Recorder.add, Recorder.trace?
-/
import Rationale.Fault
import Rationale.Settings
import Rationale.Trace.Row

namespace Rationale

/-!
A row takes its place when it is opened and is filled in when it is closed, so a finished trace
lists every row before those that it encloses.  The lineage names the open rows; its length is the
level of the next row, and only its innermost member may be closed.
-/

/-- What is known of a row when it is opened.  An absent input was never produced. -/
structure Draft where
  kind : Kind
  form : String
  input : Option Value
  continued : Bool := false
  isTrivial : Bool := false
deriving Inhabited

/-- A row that is not closed yet.  Rows of Boolean kinds know from the start which output would be
the wanted one. -/
structure PendingRow where
  draft : Draft
  level : Nat
  wanted : Option Cell
deriving Inhabited

/-- The output that is expected of a row without a wanted one: what it gave, if it did not fail. -/
def Cell.expectedOf : Result Value → Cell
  | .returned v => .value v
  | .thrown _ => .noFailure
  | .skipped => .skipped

/-- Closes a row.  A trivial row is ignored as long as it neither fails nor diverges. -/
def PendingRow.close (pending : PendingRow) (outcome : Outcome Value) (detail : Option Detail) :
    Row :=
  let draft := pending.draft
  let input := Cell.ofInput draft.input
  let expected := pending.wanted.getD (.expectedOf outcome.result)
  let actual := Cell.ofResult outcome.result
  { form := draft.form
    level := pending.level
    kind := draft.kind
    continued := draft.continued
    expected := { input := input, output := expected, detail := detail.map Detail.expected }
    actual := { input := input, output := actual, detail := detail.map Detail.actual }
    requiresExplanation := detail.isSome
    mergeable := draft.kind.isMergeable
    ignored := draft.isTrivial && !outcome.isThrown && expected == actual }

/-- A place in a recording. -/
inductive Entry where
  | pending (row : PendingRow)
  | closed (row : Row)
deriving Inhabited

/-- The row in a place, if it is closed. -/
def Entry.row? : Entry → Except Fault Row
  | .closed row => .ok row
  | .pending _ => .error (.openRows 1)

/-- Something that is told while a tree is evaluated. -/
inductive Event where
  /-- A leaf was asked, or passed over. -/
  | leafEvaluated (form : String)
  /-- A row was closed. -/
  | rowClosed (form : String) (level : Nat) (input output expected : String)
deriving Repr, DecidableEq

/-- What is told of a closed row when its cells are cut to a limit. -/
def Event.ofRow (limit : Nat) (row : Row) : Event :=
  .rowClosed row.form row.level (row.actual.input.summarize limit)
    (row.actual.output.summarize limit) (row.expected.output.summarize limit)

/-- A place in a recording, by its number from the start. -/
abbrev Handle := Nat

/-- The state of a recording. -/
structure Recorder where
  settings : Settings
  /-- All rows, in the order in which they were opened or appended. -/
  entries : Array Entry := #[]
  /-- The rows that are open, the innermost first. -/
  lineage : List Handle := []
  /-- Whether `false` is the wanted answer here. -/
  flipped : Bool := false
  /-- What was told so far. -/
  journal : Array Event := #[]
deriving Inhabited

namespace Recorder

/-- The level of the next row. -/
def level (recorder : Recorder) : Nat :=
  recorder.lineage.length

/-- The answer that is wanted of a Boolean row opened here. -/
def wantedAnswer (recorder : Recorder) : Bool :=
  !recorder.flipped

/-- The same recording with the other polarity. -/
def flip (recorder : Recorder) : Recorder :=
  { recorder with flipped := !recorder.flipped }

@[simp] theorem flip_flip (recorder : Recorder) : recorder.flip.flip = recorder := by
  simp [flip]

/-- An empty recording under the same settings and polarity, for a part that is recorded apart. -/
def child (recorder : Recorder) : Recorder :=
  { settings := recorder.settings, flipped := recorder.flipped }

/-- Tells an event. -/
def tell (event : Event) (recorder : Recorder) : Recorder :=
  { recorder with journal := recorder.journal.push event }

/-- The row that a draft opens here. -/
def pendingRow (recorder : Recorder) (draft : Draft) : PendingRow where
  draft := draft
  level := recorder.level
  wanted := if draft.kind.isBoolean then some (.value (.bool recorder.wantedAnswer)) else none

/-- The place that the next row takes. -/
def nextHandle (recorder : Recorder) : Handle :=
  recorder.entries.size

/-- Opens a row at the current level. -/
def push (recorder : Recorder) (draft : Draft) : Recorder :=
  { recorder with
    entries := recorder.entries.push (.pending (recorder.pendingRow draft))
    lineage := recorder.nextHandle :: recorder.lineage }

@[simp] theorem level_push (recorder : Recorder) (draft : Draft) :
    (recorder.push draft).level = recorder.level + 1 := rfl

/-- Ends the innermost line. -/
def pop (recorder : Recorder) : Recorder :=
  { recorder with lineage := recorder.lineage.tail }

/-- What is kept of a detail under the settings of the recording. -/
def keep (recorder : Recorder) (detail : Option Detail) : Option Detail :=
  if recorder.settings.suppressDetails then none else detail

/-- Puts a closed row into its place. -/
def put (recorder : Recorder) (handle : Handle) (row : Row) : Recorder :=
  { recorder with entries := recorder.entries.setIfInBounds handle (.closed row) }

/-- Puts a closed row into its place and, when debugging, tells of it. -/
def fill (recorder : Recorder) (handle : Handle) (row : Row) : Recorder :=
  let filled := recorder.put handle row
  if recorder.settings.debug then filled.tell (.ofRow recorder.settings.cellWidth row) else filled

@[simp] theorem lineage_fill (recorder : Recorder) (handle : Handle) (row : Row) :
    (recorder.fill handle row).lineage = recorder.lineage := by
  rw [fill]
  split <;> rfl

@[simp] theorem entries_fill (recorder : Recorder) (handle : Handle) (row : Row) :
    (recorder.fill handle row).entries =
      recorder.entries.setIfInBounds handle (.closed row) := by
  rw [fill]
  split <;> rfl

/-- Adds a closed row behind all others. -/
def add (recorder : Recorder) (row : Row) : Recorder :=
  { recorder with entries := recorder.entries.push (.closed row) }

/-- Adds events behind all others. -/
def tellAll (events : Array Event) (recorder : Recorder) : Recorder :=
  { recorder with journal := recorder.journal ++ events }

/-- The rows of a recording, all of which must be closed. -/
def trace? (recorder : Recorder) : Except Fault Trace :=
  if recorder.lineage.isEmpty then recorder.entries.toList.mapM Entry.row?
  else .error (.openRows recorder.lineage.length)

end Recorder

end Rationale
