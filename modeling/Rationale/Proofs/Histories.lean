/-
Module: Rationale.Proofs.Histories
Purpose: Whatever has been asked of a recorder, its lineage names its open rows, what it refuses
  leaves no mark on it, and its trace lists the rows in the order in which they came.
Main exports: Recorder.Reached, Recorder.IsCoherent, Recorder.IsCoherent.leave_cases,
  Recorder.IsCoherent.importChild_cases, Recorder.Reached.isCoherent, Recorder.reached_consistent
-/
import Mathlib.Data.List.Forall2
import Rationale.Proofs.Extension

namespace Rationale

/-- Whether the row in a place is still open. -/
def Entry.isPending : Entry → Bool
  | .pending _ => true
  | .closed _ => false

/-- The row is what a row that was opened became when it was closed. -/
def PendingRow.Becomes (opened : PendingRow) (row : Row) : Prop :=
  ∃ outcome detail, row = opened.close outcome detail

/-- The row opened some levels further in. -/
def PendingRow.deepen (levels : Nat) (opened : PendingRow) : PendingRow :=
  { opened with level := opened.level + levels }

theorem PendingRow.Becomes.deepen {opened : PendingRow} {row : Row} (becomes : opened.Becomes row)
    (levels : Nat) : (opened.deepen levels).Becomes (row.deepen levels) := by
  obtain ⟨outcome, detail, rfl⟩ := becomes
  exact ⟨outcome, detail, rfl⟩

/-- What stands in a place since a row was opened for it. -/
inductive Entry.Holds (opened : PendingRow) : Entry → Prop where
  | pending : Holds opened (.pending opened)
  | closed {row : Row} (becomes : opened.Becomes row) : Holds opened (.closed row)

theorem Entry.Holds.close {opened pending : PendingRow}
    (holds : Entry.Holds opened (.pending pending)) (outcome : Outcome Value)
    (detail : Option Detail) : Entry.Holds opened (.closed (pending.close outcome detail)) := by
  cases holds with
  | pending => exact .closed ⟨outcome, detail, rfl⟩

/-- Places without an open row hold what the rows opened for them became. -/
theorem Entry.exists_closed {opened : List PendingRow} {entries : List Entry}
    (held : List.Forall₂ Entry.Holds opened entries) (ended : entries.countP Entry.isPending = 0) :
    ∃ rows, entries = rows.map Entry.closed ∧ List.Forall₂ PendingRow.Becomes opened rows := by
  induction held with
  | nil => exact ⟨[], rfl, .nil⟩
  | @cons pending entry opened entries here _ ih =>
      rw [List.countP_cons, Nat.add_eq_zero_iff] at ended
      obtain ⟨rows, rfl, became⟩ := ih ended.1
      cases here with
      | pending => cases ended.2
      | @closed row becomes => exact ⟨row :: rows, rfl, .cons becomes became⟩

/-- Lists that are related item by item stay so if one item is exchanged for another that is
related to whatever it was related to. -/
theorem forall₂_set {α β : Type} {related : α → β → Prop} {first : List α} {second : List β}
    {index : Nat} {other : β} (each : List.Forall₂ related first second)
    (here : ∀ a b, second[index]? = some b → related a b → related a other) :
    List.Forall₂ related first (second.set index other) := by
  induction each generalizing index with
  | nil => exact .nil
  | @cons a b first second top rest ih =>
      cases index with
      | zero => exact .cons (here a b rfl top) rest
      | succ index => exact .cons top (ih here)

namespace Recorder

/-- The number of open rows. -/
def openCount (recorder : Recorder) : Nat :=
  recorder.entries.toList.countP Entry.isPending

/-!
### Histories

A history is any sequence of changes, of which some may be refused; a refusal leaves whatever state
the change had come to.  Beside the recorder it gathers the rows opened so far, also those that came
with an appended recording.
-/

/-- A history leads to the recorder, and these rows were opened in it, in this order. -/
inductive Reached : Recorder → List PendingRow → Prop where
  | new (settings : Settings) : Reached { settings } []
  | child {recorder : Recorder} {opened : List PendingRow} (reached : Reached recorder opened) :
      Reached recorder.child []
  | entered {recorder after : Recorder} {opened : List PendingRow} {draft : Draft}
      {handle : Handle} (reached : Reached recorder opened)
      (ran : Recording.enter draft recorder = .ok handle after) :
      Reached after (opened ++ [recorder.pendingRow draft])
  | left {recorder after : Recorder} {opened : List PendingRow} {handle : Handle}
      {outcome : Outcome Value} {detail : Option Detail} (reached : Reached recorder opened)
      (ran : Recording.leave handle outcome detail recorder = .ok () after) :
      Reached after opened
  | leaveRefused {recorder after : Recorder} {opened : List PendingRow} {handle : Handle}
      {outcome : Outcome Value} {detail : Option Detail} {fault : Fault}
      (reached : Reached recorder opened)
      (ran : Recording.leave handle outcome detail recorder = .error fault after) :
      Reached after opened
  | flipped {recorder after : Recorder} {opened : List PendingRow}
      (reached : Reached recorder opened) (ran : Recording.flip recorder = .ok () after) :
      Reached after opened
  | imported {recorder part after : Recorder} {opened inner : List PendingRow} {offset : Nat}
      (reached : Reached recorder opened) (apart : Reached part inner)
      (ran : Recording.importChild part offset recorder = .ok () after) :
      Reached after (opened ++ inner.map (PendingRow.deepen offset))
  | importRefused {recorder part after : Recorder} {opened inner : List PendingRow} {offset : Nat}
      {fault : Fault} (reached : Reached recorder opened) (apart : Reached part inner)
      (ran : Recording.importChild part offset recorder = .error fault after) :
      Reached after opened

/-- The lineage, from the outermost row on, rises strictly and names the open rows, each at the
level of its position, and every place holds what became of the row opened for it. -/
structure IsCoherent (recorder : Recorder) (opened : List PendingRow) : Prop where
  ascending : recorder.lineage.reverse.Pairwise (· < ·)
  mem_lineage_iff : ∀ handle : Handle,
    handle ∈ recorder.lineage ↔ ∃ pending, recorder.entries[handle]? = some (.pending pending)
  level_eq : ∀ (depth : Nat) (handle : Handle) (pending : PendingRow),
    recorder.lineage.reverse[depth]? = some handle →
      recorder.entries[handle]? = some (.pending pending) → pending.level = depth
  counted : recorder.openCount = recorder.lineage.length
  held : List.Forall₂ Entry.Holds opened recorder.entries.toList

/-!
### One change

Of every change it is said what it can come to in a coherent recorder, and that the recorder stays
coherent.
-/

theorem isCoherent_new (settings : Settings) (flipped : Bool) :
    IsCoherent { settings, flipped } [] where
  ascending := .nil
  mem_lineage_iff handle := by simp
  level_eq depth handle pending named := by simp at named
  counted := rfl
  held := .nil

section Filling

variable {recorder : Recorder} {handle other : Handle} {row : Row} {pending : PendingRow}

theorem getElem?_fill_of_ne (apart : other ≠ handle) :
    (recorder.fill handle row).entries[other]? = recorder.entries[other]? := by
  rw [entries_fill, Array.getElem?_setIfInBounds_ne apart.symm]

theorem getElem?_fill_self (place : recorder.entries[handle]? = some (.pending pending)) :
    (recorder.fill handle row).entries[handle]? = some (.closed row) := by
  rw [entries_fill, Array.getElem?_setIfInBounds_self_of_lt]
  exact (Array.getElem?_eq_some_iff.mp place).1

/-- When an open row is closed there is one open row less. -/
theorem openCount_fill (place : recorder.entries[handle]? = some (.pending pending)) (row : Row) :
    (recorder.fill handle row).openCount + 1 = recorder.openCount := by
  rw [← Array.getElem?_toList] at place
  obtain ⟨within, isOpen⟩ := List.getElem?_eq_some_iff.mp place
  have wasOpen : recorder.entries.toList[handle].isPending = true := by
    rw [isOpen]
    rfl
  have counted : 0 < recorder.entries.toList.countP Entry.isPending :=
    List.countP_pos_iff.mpr ⟨_, List.getElem_mem within, wasOpen⟩
  rw [openCount, openCount, entries_fill, Array.toList_setIfInBounds, List.countP_set within,
    wasOpen]
  simp only [Entry.isPending, if_true, Bool.false_eq_true, if_false]
  omega

end Filling

namespace IsCoherent

variable {recorder part : Recorder} {opened inner : List PendingRow}

theorem lt_size (coherent : recorder.IsCoherent opened) {handle : Handle}
    (named : handle ∈ recorder.lineage) : handle < recorder.entries.size := by
  obtain ⟨pending, place⟩ := (coherent.mem_lineage_iff handle).mp named
  exact (Array.getElem?_eq_some_iff.mp place).1

theorem flip (coherent : recorder.IsCoherent opened) : recorder.flip.IsCoherent opened where
  ascending := coherent.ascending
  mem_lineage_iff := coherent.mem_lineage_iff
  level_eq := coherent.level_eq
  counted := coherent.counted
  held := coherent.held

theorem push (coherent : recorder.IsCoherent opened) (draft : Draft) :
    (recorder.push draft).IsCoherent (opened ++ [recorder.pendingRow draft]) where
  ascending := by
    rw [Recorder.push, List.reverse_cons, List.pairwise_append]
    refine ⟨coherent.ascending, List.pairwise_singleton _ _, ?_⟩
    intro handle named last isLast
    rw [List.mem_singleton.mp isLast]
    exact coherent.lt_size (List.mem_reverse.mp named)
  mem_lineage_iff handle := by
    rw [Recorder.push, List.mem_cons, coherent.mem_lineage_iff, Array.getElem?_push]
    by_cases new : handle = recorder.entries.size
    · simp [new, nextHandle]
    · simp [new, nextHandle]
  level_eq depth handle pending := by
    rw [Recorder.push, List.reverse_cons, Array.getElem?_push]
    intro named place
    by_cases inner : depth < recorder.lineage.reverse.length
    · rw [List.getElem?_append_left inner] at named
      have old := coherent.lt_size (List.mem_reverse.mp (List.mem_of_getElem? named))
      rw [if_neg (Nat.ne_of_lt old)] at place
      exact coherent.level_eq depth handle pending named place
    · rw [List.getElem?_append_right (Nat.le_of_not_lt inner),
        List.getElem?_singleton] at named
      split at named
      · cases named
        rw [nextHandle, if_pos rfl] at place
        cases place
        rw [List.length_reverse] at *
        show recorder.lineage.length = depth
        omega
      · cases named
  counted := by
    have before := coherent.counted
    rw [openCount] at before
    rw [openCount, Recorder.push, Array.toList_push, List.countP_append, before]
    rfl
  held := by
    rw [Recorder.push, Array.toList_push]
    exact List.rel_append coherent.held (.cons .pending .nil)

/-- The innermost row closes; its place is the only one that changes. -/
theorem fill (coherent : recorder.IsCoherent opened) {handle : Handle} {outer : List Handle}
    {pending : PendingRow} (lineage : recorder.lineage = handle :: outer)
    (place : recorder.entries[handle]? = some (.pending pending)) (outcome : Outcome Value)
    (detail : Option Detail) :
    (recorder.pop.fill handle (pending.close outcome detail)).IsCoherent opened := by
  have ascending := coherent.ascending
  rw [lineage, List.reverse_cons, List.pairwise_append] at ascending
  obtain ⟨outward, -, inner⟩ := ascending
  have others : ∀ other ∈ outer, other ≠ handle := fun other named =>
    Nat.ne_of_lt (inner other (List.mem_reverse.mpr named) handle List.mem_cons_self)
  have left : (recorder.pop.fill handle (pending.close outcome detail)).lineage = outer := by
    rw [lineage_fill, pop, lineage]
    rfl
  have stillOpen : recorder.pop.entries[handle]? = some (.pending pending) := place
  constructor
  · rw [left]
    exact outward
  · intro other
    rw [left]
    by_cases same : other = handle
    · rw [same, getElem?_fill_self stillOpen]
      simp only [reduceCtorEq, Option.some.injEq, exists_false, iff_false]
      exact fun named => others handle named rfl
    · have named := coherent.mem_lineage_iff other
      rw [lineage, List.mem_cons, or_iff_right same] at named
      rw [getElem?_fill_of_ne same]
      exact named
  · intro depth other stands named isOpen
    rw [left] at named
    have apart := others other (List.mem_reverse.mp (List.mem_of_getElem? named))
    rw [getElem?_fill_of_ne apart] at isOpen
    refine coherent.level_eq depth other stands ?_ isOpen
    rw [lineage, List.reverse_cons, List.getElem?_append_left]
    · exact named
    · exact (List.getElem?_eq_some_iff.mp named).1
  · have before : recorder.pop.openCount = outer.length + 1 := by
      rw [← List.length_cons, ← lineage, ← coherent.counted]
      rfl
    have closes := openCount_fill stillOpen (pending.close outcome detail)
    rw [left]
    omega
  · rw [entries_fill, pop, Array.toList_setIfInBounds]
    refine forall₂_set coherent.held ?_
    intro row entry here holds
    rw [Array.getElem?_toList, place] at here
    cases here
    exact holds.close outcome detail

/-- Closed rows come behind all others; none of the places before them changes. -/
theorem note (coherent : recorder.IsCoherent opened) {rows : List Row}
    (became : List.Forall₂ PendingRow.Becomes inner rows) (events : List Event) :
    (recorder.note rows events).IsCoherent (opened ++ inner) := by
  have added : (recorder.note rows events).entries.toList =
      recorder.entries.toList ++ rows.map Entry.closed := by
    simp [Recorder.note]
  have isOpen_iff : ∀ (handle : Handle) (pending : PendingRow),
      (recorder.note rows events).entries[handle]? = some (.pending pending) ↔
        recorder.entries[handle]? = some (.pending pending) := by
    intro handle pending
    rw [← Array.getElem?_toList, ← Array.getElem?_toList, added]
    by_cases old : handle < recorder.entries.toList.length
    · rw [List.getElem?_append_left old]
    · rw [List.getElem?_append_right (Nat.le_of_not_lt old), List.getElem?_map,
        List.getElem?_eq_none (Nat.le_of_not_lt old)]
      cases rows[handle - recorder.entries.toList.length]? <;> simp
  constructor
  · exact coherent.ascending
  · intro handle
    simp only [isOpen_iff]
    exact coherent.mem_lineage_iff handle
  · intro depth handle pending named isOpen
    exact coherent.level_eq depth handle pending named ((isOpen_iff handle pending).mp isOpen)
  · have closed : (rows.map Entry.closed).countP Entry.isPending = 0 := by
      simp [Entry.isPending]
    rw [openCount, added, List.countP_append, closed]
    exact coherent.counted
  · rw [added]
    apply List.rel_append coherent.held
    rw [List.forall₂_map_right_iff]
    exact became.imp fun _ _ becomes => .closed becomes

/-- A row is closed if it is the innermost open one, and otherwise refused without a mark. -/
theorem leave_cases (coherent : recorder.IsCoherent opened) (handle : Handle)
    (outcome : Outcome Value) (detail : Option Detail) :
    (∃ outer pending, recorder.lineage = handle :: outer ∧
      recorder.entries[handle]? = some (.pending pending) ∧
      Recording.leave handle outcome detail recorder = .ok ()
        (recorder.pop.fill handle (pending.close outcome (recorder.keep detail)))) ∨
    recorder.lineage.head? ≠ some handle ∧
      Recording.leave handle outcome detail recorder =
        .error (.unbalanced recorder.lineage.head? handle) recorder := by
  by_cases innermost : recorder.lineage.head? = some handle
  · obtain ⟨outer, lineage⟩ := List.head?_eq_some_iff.mp innermost
    have named : handle ∈ recorder.lineage := lineage ▸ List.mem_cons_self
    obtain ⟨pending, place⟩ := (coherent.mem_lineage_iff handle).mp named
    exact Or.inl ⟨outer, pending, lineage, place, Recording.leave_of_innermost innermost place⟩
  · exact Or.inr ⟨innermost, Recording.leave_of_other innermost⟩

/-- In a recorder without open rows every place holds what the row opened for it became. -/
theorem exists_closed (coherent : recorder.IsCoherent opened) (ended : recorder.lineage = []) :
    ∃ rows, recorder.entries.toList = rows.map Entry.closed ∧
      List.Forall₂ PendingRow.Becomes opened rows := by
  apply Entry.exists_closed coherent.held
  have counted := coherent.counted
  rwa [ended] at counted

/-- A recording is appended with all its rows if none of them is open, and otherwise refused
without a mark. -/
theorem importChild_cases (apart : part.IsCoherent inner) (recorder : Recorder) (offset : Nat) :
    (∃ rows, part.lineage = [] ∧ List.Forall₂ PendingRow.Becomes inner rows ∧
      Recording.importChild part offset recorder = .ok ()
        (recorder.note (rows.map (Row.deepen offset)) part.journal.toList)) ∨
    part.lineage ≠ [] ∧
      Recording.importChild part offset recorder = .error (.openRows part.openCount) recorder := by
  by_cases ended : part.lineage = []
  · obtain ⟨rows, closed, became⟩ := apart.exists_closed ended
    exact Or.inl ⟨rows, ended, became, importChild_closed offset ended closed⟩
  · rw [apart.counted]
    exact Or.inr ⟨ended, Recording.importChild_of_open ended⟩

/-- A recorder gives its rows if none of them is open. -/
theorem trace?_cases (coherent : recorder.IsCoherent opened) :
    (∃ rows, recorder.lineage = [] ∧ List.Forall₂ PendingRow.Becomes opened rows ∧
      recorder.trace? = .ok rows) ∨
    recorder.lineage ≠ [] ∧ recorder.trace? = .error (.openRows recorder.openCount) := by
  by_cases ended : recorder.lineage = []
  · obtain ⟨rows, closed, became⟩ := coherent.exists_closed ended
    have given : recorder.trace? = .ok rows := by
      rw [trace?, ended, closed, mapM_row?_closed]
      rfl
    exact Or.inl ⟨rows, ended, became, given⟩
  · have refused : recorder.trace? = .error (.openRows recorder.openCount) := by
      rw [trace?, if_neg (by simpa using ended), coherent.counted]
    exact Or.inr ⟨ended, refused⟩

end IsCoherent

/-!
### Whole histories
-/

/-- Every history leaves the recorder coherent. -/
theorem Reached.isCoherent {recorder : Recorder} {opened : List PendingRow}
    (reached : recorder.Reached opened) : recorder.IsCoherent opened := by
  -- By induction on the history.  A change that is refused leaves the recorder as it was, so only
  -- those that go through have anything to keep.
  induction reached with
  | new settings => exact isCoherent_new settings false
  | child => exact isCoherent_new _ _
  | entered _ ran coherent =>
      cases ran
      exact coherent.push _
  | @left recorder after opened handle outcome detail _ ran coherent =>
      rcases coherent.leave_cases handle outcome detail with
        ⟨outer, pending, lineage, place, closes⟩ | ⟨-, refused⟩
      · rw [closes] at ran
        cases ran
        exact coherent.fill lineage place outcome _
      · rw [refused] at ran
        cases ran
  | @leaveRefused recorder after opened handle outcome detail fault _ ran coherent =>
      rcases coherent.leave_cases handle outcome detail with
        ⟨outer, pending, lineage, place, closes⟩ | ⟨-, refused⟩
      · rw [closes] at ran
        cases ran
      · rw [refused] at ran
        cases ran
        exact coherent
  | flipped _ ran coherent =>
      cases ran
      exact coherent.flip
  | @imported recorder part after opened inner offset _ _ ran coherent apart =>
      rcases apart.importChild_cases recorder offset with ⟨rows, -, became, appends⟩ | ⟨-, refused⟩
      · rw [appends] at ran
        cases ran
        apply coherent.note
        rw [List.forall₂_map_left_iff, List.forall₂_map_right_iff]
        exact became.imp fun _ _ becomes => becomes.deepen offset
      · rw [refused] at ran
        cases ran
  | @importRefused recorder part after opened inner offset fault _ _ ran coherent apart =>
      rcases apart.importChild_cases recorder offset with ⟨rows, -, became, appends⟩ | ⟨-, refused⟩
      · rw [appends] at ran
        cases ran
      · rw [refused] at ran
        cases ran
        exact coherent

/-- Whatever history leads to a recorder, its lineage rises strictly, names exactly the open rows
and shows their levels.  A row closes if and only if it is the innermost open one, and then does
not close again; a recording is appended, and a trace given, if and only if the recording itself has
no open row, and otherwise the fault tells how many it has.  A change that is refused leaves the
recorder as it was, and the trace lists what became of the rows in the order in which they were
opened or came with an appended recording.  Offsets and levels have no bound, as in `Row.deepen`. -/
theorem reached_consistent {recorder : Recorder} {opened : List PendingRow}
    (reached : recorder.Reached opened) :
    recorder.IsCoherent opened ∧
    (∀ (handle : Handle) (outcome : Outcome Value) (detail : Option Detail),
      match Recording.leave handle outcome detail recorder with
      | .ok _ after => recorder.lineage.head? = some handle ∧
          ∀ other more, ∃ fault, Recording.leave handle other more after = .error fault after
      | .error fault after => recorder.lineage.head? ≠ some handle ∧
          fault = .unbalanced recorder.lineage.head? handle ∧ after = recorder) ∧
    (∀ (part : Recorder) (inner : List PendingRow) (offset : Nat), part.Reached inner →
      match Recording.importChild part offset recorder with
      | .ok _ _ => part.openCount = 0
      | .error fault after =>
        part.openCount ≠ 0 ∧ fault = .openRows part.openCount ∧ after = recorder) ∧
    match recorder.trace? with
    | .ok rows => recorder.openCount = 0 ∧ List.Forall₂ PendingRow.Becomes opened rows
    | .error fault => recorder.openCount ≠ 0 ∧ fault = .openRows recorder.openCount := by
  have coherent := reached.isCoherent
  have none_open_iff : ∀ {other : Recorder} {rows : List PendingRow}, other.IsCoherent rows →
      (other.openCount = 0 ↔ other.lineage = []) := by
    intro other rows coherent
    rw [coherent.counted, List.length_eq_zero_iff]
  refine ⟨coherent, ?_, ?_, ?_⟩
  · intro handle outcome detail
    rcases coherent.leave_cases handle outcome detail with
      ⟨outer, pending, lineage, place, closes⟩ | ⟨other, refused⟩
    · rw [closes]
      refine ⟨by rw [lineage]; rfl, fun other more => ?_⟩
      -- The line of the row has ended, and no row further out has its place.
      have ascending := coherent.ascending
      rw [lineage, List.reverse_cons, List.pairwise_append] at ascending
      have gone : handle ∉ outer := fun named =>
        Nat.lt_irrefl handle
          (ascending.2.2 handle (List.mem_reverse.mpr named) handle List.mem_cons_self)
      refine ⟨_, Recording.leave_of_other fun innermost => gone ?_⟩
      rw [lineage_fill, pop, lineage] at innermost
      exact List.mem_of_head? innermost
    · rw [refused]
      exact ⟨other, rfl, rfl⟩
  · intro part inner offset apart
    rcases apart.isCoherent.importChild_cases recorder offset with
      ⟨rows, ended, -, appends⟩ | ⟨unfinished, refused⟩
    · rw [appends]
      exact (none_open_iff apart.isCoherent).mpr ended
    · rw [refused]
      exact ⟨fun none => unfinished ((none_open_iff apart.isCoherent).mp none), rfl, rfl⟩
  · rcases coherent.trace?_cases with ⟨rows, ended, became, given⟩ | ⟨unfinished, refused⟩
    · rw [given]
      exact ⟨(none_open_iff coherent).mpr ended, became⟩
    · rw [refused]
      exact ⟨fun none => unfinished ((none_open_iff coherent).mp none), rfl⟩

/-- Two rows are opened, closing the outer one is refused, a finished recording comes in between,
and the inner one closes: it does not close again, and the outer one is still open. -/
theorem reached_consistent_of_nested :
    ∃ recorder opened, Recorder.Reached recorder opened ∧ recorder.IsCoherent opened ∧
      opened.map (fun row => (row.draft.form, row.level)) =
        [("not", 0), ("isNull", 1), ("isNull", 2)] ∧
      recorder.lineage = [0] ∧ recorder.trace? = .error (.openRows 1) ∧ recorder.openCount = 1 ∧
      ∀ outcome detail, Recording.leave 1 outcome detail recorder =
        .error (.unbalanced (some 0) 1) recorder := by
  let outer : Draft := { kind := .negation, form := "not", input := some .null }
  let leaf : Draft := { kind := .leaf, form := "isNull", input := some .null }
  let row : Row := (pendingRow { settings := {} } leaf).close .skipped none
  let part : Recorder := { settings := {}, entries := #[.closed row] }
  let inside : Recorder := (push { settings := {} } outer).push leaf
  have apart : Reached part _ :=
    .left (.entered (.new {}) rfl)
      (show Recording.leave 0 .skipped none (push { settings := {} } leaf) = .ok () part from rfl)
  have refused : Reached inside _ :=
    .leaveRefused (.entered (.entered (.new {}) rfl) rfl)
      (show Recording.leave 0 .skipped none inside = .error _ inside from rfl)
  have appended : Reached (inside.note [row.deepen 2] []) _ :=
    .imported refused apart (show Recording.importChild part 2 inside = .ok () _ from rfl)
  obtain ⟨recorder, closes, lineage, trace⟩ : ∃ recorder,
    Recording.leave 1 .skipped none (inside.note [row.deepen 2] []) = .ok () recorder ∧
      recorder.lineage = [0] ∧ recorder.trace? = .error (.openRows 1) := ⟨_, rfl, rfl, rfl⟩
  have reached : Reached recorder _ := .left appended closes
  obtain ⟨coherent, leaves, -, given⟩ := reached_consistent reached
  rw [trace] at given
  refine ⟨recorder, _, reached, coherent, rfl, lineage, trace, ?_, ?_⟩
  · exact (Fault.openRows.inj given.2).symm
  · intro outcome detail
    have again := leaves 1 outcome detail
    cases run : Recording.leave 1 outcome detail recorder with
    | ok result after =>
        rw [run, lineage] at again
        cases again.1
    | error fault after =>
        rw [run, lineage] at again
        obtain ⟨-, rfl, rfl⟩ := again
        rfl

end Recorder

end Rationale
