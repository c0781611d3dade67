/-
Module: Rationale.Proofs.Extension
Purpose: What closed rows added to a recorder change in it, and what an aborted part may leave.
Main exports: Recorder.extend, Recorder.Appends, Recorder.leave_note_push, Recorder.Abandoned,
  Recorder.importChild_closed, Recorder.importChild_extend_child
-/
import Rationale.Proofs.Account

namespace Rationale

namespace Recorder

/-- The recorder after closed rows were appended and events told. -/
def note (recorder : Recorder) (rows : List Row) (events : List Event) : Recorder :=
  { recorder with
    entries := recorder.entries ++ rows.map Entry.closed
    journal := recorder.journal ++ events }

/-- The recorder after the rows of a forest were appended at the current level. -/
def extend (recorder : Recorder) (forest : Forest) : Recorder :=
  recorder.note (forest.rows recorder.level) (forest.events recorder.settings recorder.level)

@[simp] theorem settings_note (recorder : Recorder) (rows : List Row) (events : List Event) :
    (recorder.note rows events).settings = recorder.settings := rfl

@[simp] theorem flipped_note (recorder : Recorder) (rows : List Row) (events : List Event) :
    (recorder.note rows events).flipped = recorder.flipped := rfl

@[simp] theorem level_note (recorder : Recorder) (rows : List Row) (events : List Event) :
    (recorder.note rows events).level = recorder.level := rfl

@[simp] theorem note_nil (recorder : Recorder) : recorder.note [] [] = recorder := by
  simp [note]

theorem note_note (recorder : Recorder) (rows later : List Row) (events last : List Event) :
    (recorder.note rows events).note later last =
      recorder.note (rows ++ later) (events ++ last) := by
  simp only [note, mk.injEq, List.map_append, true_and]
  constructor <;> (apply Array.ext'; simp)

@[simp] theorem extend_nil (recorder : Recorder) : recorder.extend .nil = recorder :=
  recorder.note_nil

@[simp] theorem settings_extend (recorder : Recorder) (forest : Forest) :
    (recorder.extend forest).settings = recorder.settings := rfl

@[simp] theorem flipped_extend (recorder : Recorder) (forest : Forest) :
    (recorder.extend forest).flipped = recorder.flipped := rfl

@[simp] theorem settings_push (recorder : Recorder) (draft : Draft) :
    (recorder.push draft).settings = recorder.settings := rfl

@[simp] theorem flipped_push (recorder : Recorder) (draft : Draft) :
    (recorder.push draft).flipped = recorder.flipped := rfl

theorem extend_extend (recorder : Recorder) (first second : Forest) :
    (recorder.extend first).extend second = recorder.extend (first ++ second) := by
  simp [extend, note_note]

theorem flip_extend (recorder : Recorder) (forest : Forest) :
    (recorder.flip.extend forest).flip = recorder.extend forest := by
  simp [extend, note, flip, level]

/-- Closed rows came after what was recorded before, which has not changed. -/
def Appends (before after : Recorder) (rows : List Row) : Prop :=
  after.entries.toList = before.entries.toList ++ rows.map Entry.closed

theorem appends_note (recorder : Recorder) (rows : List Row) (events : List Event) :
    recorder.Appends (recorder.note rows events) rows := by
  simp [Appends, note]

theorem appends_extend (recorder : Recorder) (forest : Forest) :
    recorder.Appends (recorder.extend forest) (forest.rows recorder.level) :=
  recorder.appends_note _ _

/-- What is told of a row when it is closed. -/
def closing (settings : Settings) (row : Row) : List Event :=
  if settings.debug then [.ofRow settings.cellWidth row] else []

/-- The row opened last closes, whatever closed rows have come after it. -/
theorem leave_note_push (recorder : Recorder) (draft : Draft) (rows : List Row)
    (events : List Event) (attempt : Attempt) :
    let row := (draft.row recorder.settings recorder.flipped attempt).atLevel recorder.level
    Recording.leave recorder.nextHandle attempt.outcome attempt.detail
        ((recorder.push draft).note rows events) =
      .ok () (recorder.note (row :: rows) (events ++ closing recorder.settings row)) := by
  intro row
  have place : ((recorder.push draft).note rows events).entries[recorder.nextHandle]? =
      some (.pending (recorder.pendingRow draft)) := by
    rw [← Array.getElem?_toList]
    simp [push, note, nextHandle]
  have kept : (recorder.pendingRow draft).close attempt.outcome
      (((recorder.push draft).note rows events).keep attempt.detail) = row := rfl
  have filled : ((recorder.push draft).note rows events).pop.put recorder.nextHandle row =
      recorder.note (row :: rows) events := by
    simp only [put, pop, push, note, mk.injEq, List.tail_cons, and_true, true_and]
    apply Array.ext'
    simp [nextHandle]
  have settings : ((recorder.push draft).note rows events).pop.settings = recorder.settings := rfl
  rw [Recording.leave_of_innermost rfl place, kept, fill, filled, settings, closing]
  by_cases debug : recorder.settings.debug
  · simp only [debug, if_true, tell, note, EStateM.Result.ok.injEq, mk.injEq, true_and]
    apply Array.ext'
    simp
  · simp [debug]

/-- A recorder left in the middle: settings and polarity are as before, nothing recorded before has
changed, and rows opened since may still be open. -/
structure Abandoned (before after : Recorder) : Prop where
  settings : after.settings = before.settings
  flipped : after.flipped = before.flipped
  entries : before.entries.toList <+: after.entries.toList
  lineage : before.lineage <:+ after.lineage

namespace Abandoned

variable {before between after : Recorder}

theorem refl (recorder : Recorder) : recorder.Abandoned recorder :=
  ⟨rfl, rfl, List.prefix_rfl, List.suffix_rfl⟩

theorem trans (first : before.Abandoned between) (second : between.Abandoned after) :
    before.Abandoned after where
  settings := second.settings.trans first.settings
  flipped := second.flipped.trans first.flipped
  entries := first.entries.trans second.entries
  lineage := first.lineage.trans second.lineage

theorem of_note (recorder : Recorder) (rows : List Row) (events : List Event) :
    recorder.Abandoned (recorder.note rows events) where
  settings := rfl
  flipped := rfl
  entries := by simp [note]
  lineage := List.suffix_rfl

theorem of_push (recorder : Recorder) (draft : Draft) :
    recorder.Abandoned (recorder.push draft) where
  settings := rfl
  flipped := rfl
  entries := by simp [push]
  lineage := List.suffix_cons _ _

theorem of_flip (abandoned : before.flip.Abandoned after) : before.Abandoned after.flip where
  settings := abandoned.settings
  flipped := by
    have := abandoned.flipped
    simp only [flip] at this ⊢
    rw [this, Bool.not_not]
  entries := abandoned.entries
  lineage := abandoned.lineage

end Abandoned

theorem mapM_row?_closed (rows : List Row) :
    (rows.map Entry.closed).mapM Entry.row? = .ok rows := by
  induction rows with
  | nil => rfl
  | cons row rest ih =>
      rw [List.map_cons, List.mapM_cons, ih]
      rfl

/-- The rows of a finished recording are those appended to it. -/
theorem trace?_extend_new (settings : Settings) (flipped : Bool) (forest : Forest) :
    (extend { settings, flipped } forest).trace? = .ok (forest.rows 0) := by
  have closed : (extend { settings, flipped } forest).entries.toList =
      (forest.rows 0).map Entry.closed := by
    simp [extend, note, level]
  rw [trace?, closed, mapM_row?_closed]
  rfl

theorem note_add (recorder : Recorder) (row : Row) (rows : List Row) (events : List Event) :
    (recorder.add row).note rows events = recorder.note (row :: rows) events := by
  simp only [add, note, List.map_cons, mk.injEq, true_and, and_true]
  apply Array.ext'
  simp

theorem addRows_closed (offset : Nat) (rows : List Row) (recorder : Recorder) :
    Recording.addRows offset (rows.map Entry.closed) recorder =
      .ok () (recorder.note (rows.map (Row.deepen offset)) []) := by
  induction rows generalizing recorder with
  | nil => rw [List.map_nil, List.map_nil, note_nil]; rfl
  | cons row rest ih =>
      rw [List.map_cons, List.map_cons, ← note_add, ← ih]
      rfl

/-- A recording of which all rows are closed is appended with them. -/
theorem importChild_closed {recorder part : Recorder} {rows : List Row} (offset : Nat)
    (ended : part.lineage = []) (closed : part.entries.toList = rows.map Entry.closed) :
    Recording.importChild part offset recorder =
      .ok () (recorder.note (rows.map (Row.deepen offset)) part.journal.toList) := by
  have added := addRows_closed offset rows recorder
  rw [← closed] at added
  rw [Recording.importChild_of_ended ended added]
  simp only [note, tellAll, EStateM.Result.ok.injEq, mk.injEq, true_and]
  apply Array.ext'
  simp

/-- A finished recording of a part is appended with its rows at the current level. -/
theorem importChild_extend_child (recorder : Recorder) (inner : Forest) :
    Recording.importChild (recorder.child.extend inner) recorder.level recorder =
      .ok () (recorder.note (inner.rows recorder.level) (inner.events recorder.settings 0)) := by
  have closed : (recorder.child.extend inner).entries.toList =
      (inner.rows 0).map Entry.closed := by
    simp [extend, note, child, level]
  have told : (recorder.child.extend inner).journal.toList =
      inner.events recorder.settings 0 := by
    simp [extend, note, child, level]
  rw [importChild_closed recorder.level rfl closed, told, inner.map_deepen_rows, Nat.zero_add]

theorem append?_extend_child (recorder : Recorder) (inner : Forest) :
    recorder.append? (recorder.child.extend inner) recorder.level =
      .ok (recorder.note (inner.rows recorder.level) (inner.events recorder.settings 0)) := by
  rw [append?, importChild_extend_child]

end Recorder

end Rationale
