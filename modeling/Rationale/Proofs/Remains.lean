/-
Module: Rationale.Proofs.Remains
Purpose: What a part leaves in a recorder, whether it ends or breaks off in the middle: the same
  places wherever it runs, but for how deep they lie.
Main exports: Entry.deepen, Entry.IsFor, Recorder.Collects, Recorder.remains, Recording.Yields,
  Recording.IsRegular, Tree.eval_isRegular, Recorder.collects_remains
-/
import Rationale.Proofs.Following

namespace Rationale

namespace Entry

/-- The place some levels further in. -/
def deepen (levels : Nat) : Entry → Entry
  | .pending row => .pending { row with level := row.level + levels }
  | .closed row => .closed (row.deepen levels)

theorem deepen_deepen (entry : Entry) (levels more : Nat) :
    (entry.deepen levels).deepen more = entry.deepen (levels + more) := by
  cases entry <;> simp [deepen, Row.deepen, Nat.add_assoc]

theorem map_deepen_deepen (entries : List Entry) (levels more : Nat) :
    (entries.map (deepen levels)).map (deepen more) = entries.map (deepen (levels + more)) := by
  rw [List.map_map]
  exact List.map_congr_left fun entry _ => entry.deepen_deepen levels more

/-- The row in a place, open or closed, has a kind, a form and a level. -/
def IsFor (kind : Kind) (form : String) (level : Nat) : Entry → Prop
  | .pending row => row.draft.kind = kind ∧ row.draft.form = form ∧ row.level = level
  | .closed row => row.kind = kind ∧ row.form = form ∧ row.level = level

theorem IsFor.deepen {kind : Kind} {form : String} {level levels deeper : Nat} {entry : Entry}
    (isFor : entry.IsFor kind form level) (further : level + levels = deeper) :
    (entry.deepen levels).IsFor kind form deeper := by
  subst further
  cases entry with
  | pending row => exact ⟨isFor.1, isFor.2.1, congrArg (· + levels) isFor.2.2⟩
  | closed row => exact ⟨isFor.1, isFor.2.1, congrArg (· + levels) isFor.2.2⟩

end Entry

/-- The place of a row that closed with an attempt, or that was open when its inside broke off; told
as at the outermost level. -/
def Draft.entry (settings : Settings) (flipped : Bool) (draft : Draft) :
    Except Fault Attempt → Entry
  | .ok attempt => .closed (draft.row settings flipped attempt)
  | .error _ => .pending (Recorder.pendingRow { settings, flipped } draft)

theorem Draft.isFor_entry (settings : Settings) (flipped : Bool) (draft : Draft)
    (verdict : Except Fault Attempt) :
    (draft.entry settings flipped verdict).IsFor draft.kind draft.form 0 := by
  cases verdict <;> exact ⟨rfl, rfl, rfl⟩

namespace Recording

variable {α : Type}

/-- The recorder as a run leaves it, whether it ends or breaks off. -/
def reached (run : Recording α) (recorder : Recorder) : Recorder :=
  match run recorder with
  | .ok _ after | .error _ after => after

/-- The result of a run, or the fault that it breaks off with. -/
def verdict (run : Recording α) (recorder : Recorder) : Except Fault α :=
  match run recorder with
  | .ok result _ => .ok result
  | .error fault _ => .error fault

end Recording

namespace Recorder

/-- Evaluating a tree here leaves places behind those recorded before, of which none has changed. -/
def Collects (recorder : Recorder) (tree : Tree) (input : Option Value) (entries : List Entry) :
    Prop :=
  ((tree.eval input).reached recorder).entries.toList = recorder.entries.toList ++ entries

/-- The places behind those recorded before, after a tree was evaluated here. -/
def remains (recorder : Recorder) (tree : Tree) (input : Option Value) : List Entry :=
  ((tree.eval input).reached recorder).entries.toList.drop recorder.entries.size

theorem Collects.remains_eq {recorder : Recorder} {tree : Tree} {input : Option Value}
    {entries : List Entry} (collects : recorder.Collects tree input entries) :
    recorder.remains tree input = entries := by
  rw [remains, collects, ← Array.length_toList, List.drop_left]

/-- A recorder works under some settings and a polarity. -/
structure IsUnder (recorder : Recorder) (settings : Settings) (flipped : Bool) : Prop where
  settings : recorder.settings = settings
  flipped : recorder.flipped = flipped

namespace IsUnder

variable {recorder : Recorder} {settings : Settings} {flipped : Bool}

theorem note (under : recorder.IsUnder settings flipped) (rows : List Row) (events : List Event) :
    (recorder.note rows events).IsUnder settings flipped :=
  ⟨under.settings, under.flipped⟩

theorem push (under : recorder.IsUnder settings flipped) (draft : Draft) :
    (recorder.push draft).IsUnder settings flipped :=
  ⟨under.settings, under.flipped⟩

theorem child (under : recorder.IsUnder settings flipped) :
    recorder.child.IsUnder settings flipped :=
  ⟨under.settings, under.flipped⟩

theorem flip (under : recorder.IsUnder settings flipped) :
    recorder.flip.IsUnder settings (!flipped) :=
  ⟨under.settings, congrArg not under.flipped⟩

end IsUnder

end Recorder

namespace Recording

variable {α β : Type} {settings : Settings} {flipped : Bool}

/-- A computation gives a verdict and leaves places in every recorder under some settings and a
polarity; the places are told as at the outermost level.  What ends has closed all of its rows. -/
def Yields (run : Recording α) (settings : Settings) (flipped : Bool) :
    Except Fault α → List Entry → Prop
  | .ok result, left => ∃ rows : List Row, left = rows.map Entry.closed ∧
      ∀ recorder : Recorder, recorder.IsUnder settings flipped →
        ∃ events, run recorder =
          .ok result (recorder.note (rows.map (Row.deepen recorder.level)) events)
  | .error fault, left => ∀ recorder : Recorder, recorder.IsUnder settings flipped →
      ∃ after, run recorder = .error fault after ∧
        after.entries.toList = recorder.entries.toList ++ left.map (Entry.deepen recorder.level)

theorem map_deepen_closed (rows : List Row) (levels : Nat) :
    (rows.map Entry.closed).map (Entry.deepen levels) =
      (rows.map (Row.deepen levels)).map Entry.closed := by
  rw [List.map_map, List.map_map]
  rfl

/-!
### What runs yield

Each way to put a computation together has its law: what the whole yields, from what its parts
yield.
-/

section Laws

variable {run : Recording α} {next : α → Recording β} {result : α} {fault : Fault}
  {left later : List Entry}

theorem yields_pure (result : α) : Yields (pure result) settings flipped (.ok result) [] := by
  refine ⟨[], rfl, fun recorder _ => ⟨[], ?_⟩⟩
  rw [List.map_nil, Recorder.note_nil]
  rfl

theorem yields_throw (fault : Fault) :
    Yields (throw fault : Recording α) settings flipped (.error fault) [] :=
  fun recorder _ => ⟨recorder, rfl, (List.append_nil _).symm⟩

theorem yields_ofExcept (given : Except Fault α) :
    Yields (ofExcept given) settings flipped given [] := by
  cases given with
  | ok result => exact yields_pure result
  | error fault => exact yields_throw fault

theorem Yields.bind {verdict : Except Fault β}
    (first : run.Yields settings flipped (.ok result) left)
    (second : (next result).Yields settings flipped verdict later) :
    Yields (run >>= next) settings flipped verdict (left ++ later) := by
  obtain ⟨rows, rfl, ends⟩ := first
  cases verdict with
  | ok last =>
      obtain ⟨others, rfl, follows⟩ := second
      refine ⟨rows ++ others, List.map_append.symm, fun recorder under => ?_⟩
      obtain ⟨events, ran⟩ := ends recorder under
      obtain ⟨more, further⟩ :=
        follows _ (under.note (rows.map (Row.deepen recorder.level)) events)
      refine ⟨events ++ more, ?_⟩
      rw [Recorder.level_note, Recorder.note_note, ← List.map_append] at further
      simp only [Bind.bind, EStateM.bind, ran, further]
  | error fault =>
      intro recorder under
      obtain ⟨events, ran⟩ := ends recorder under
      obtain ⟨after, aborted, entries⟩ :=
        second _ (under.note (rows.map (Row.deepen recorder.level)) events)
      refine ⟨after, ?_, ?_⟩
      · simp only [Bind.bind, EStateM.bind, ran, aborted]
      · rw [entries, Recorder.appends_note, Recorder.level_note, List.map_append,
          map_deepen_closed, List.append_assoc]

theorem Yields.bind_error (first : run.Yields settings flipped (.error fault) left) :
    Yields (run >>= next) settings flipped (.error fault) left := by
  intro recorder under
  obtain ⟨after, aborted, entries⟩ := first recorder under
  exact ⟨after, by simp only [Bind.bind, EStateM.bind, aborted], entries⟩

/-- A last step that neither fails nor records. -/
theorem Yields.finish {verdict : Except Fault α} (conclude : α → β)
    (first : run.Yields settings flipped verdict left) :
    Yields (run >>= fun result => pure (conclude result)) settings flipped
      (verdict.map conclude) left := by
  cases verdict with
  | error fault => exact first.bind_error
  | ok result =>
      have whole : Yields (run >>= fun result => pure (conclude result)) settings flipped
        (.ok (conclude result)) (left ++ []) := first.bind (yields_pure (conclude result))
      rw [List.append_nil] at whole
      exact whole

theorem yields_flipped {verdict : Except Fault α}
    (body : run.Yields settings (!flipped) verdict left) :
    (Recording.flipped run).Yields settings flipped verdict left := by
  cases verdict with
  | ok result =>
      obtain ⟨rows, rfl, ends⟩ := body
      refine ⟨rows, rfl, fun recorder under => ?_⟩
      obtain ⟨events, ran⟩ := ends recorder.flip under.flip
      refine ⟨events, ?_⟩
      simp only [Recording.flipped, ran]
      simp [Recorder.note, Recorder.flip, Recorder.level]
  | error fault =>
      intro recorder under
      obtain ⟨after, aborted, entries⟩ := body recorder.flip under.flip
      exact ⟨after.flip, by simp only [Recording.flipped, aborted], entries⟩

theorem Yields.within {run : Recording Attempt} {verdict : Except Fault Attempt} (draft : Draft)
    (body : run.Yields settings flipped verdict left) :
    (within draft run).Yields settings flipped (verdict.map Attempt.outcome)
      (draft.entry settings flipped verdict :: left.map (Entry.deepen 1)) := by
  cases verdict with
  | ok attempt =>
      obtain ⟨rows, rfl, ends⟩ := body
      let row := draft.row settings flipped attempt
      refine ⟨row :: rows.map (Row.deepen 1), ?_, fun recorder under => ?_⟩
      · rw [map_deepen_closed]
        rfl
      · obtain ⟨events, ran⟩ := ends _ (under.push draft)
        have around := within_eq ran
        have placed : row.atLevel recorder.level = row.deepen recorder.level := by
          simp [row, Row.atLevel, Row.deepen, Draft.row, PendingRow.close, Recorder.pendingRow,
            Recorder.level]
        have deeper : rows.map (Row.deepen (recorder.push draft).level) =
            (rows.map (Row.deepen 1)).map (Row.deepen recorder.level) := by
          rw [List.map_map]
          refine List.map_congr_left fun inner _ => ?_
          simp only [Function.comp, Row.deepen, Recorder.level_push, Nat.add_assoc,
            Nat.add_comm 1]
        rw [under.settings, under.flipped, placed, deeper] at around
        exact ⟨_, around⟩
  | error fault =>
      intro recorder under
      obtain ⟨after, aborted, entries⟩ := body _ (under.push draft)
      refine ⟨after, within_aborts aborted, ?_⟩
      have opened : (recorder.push draft).entries.toList = recorder.entries.toList ++
          [(draft.entry settings flipped (.error fault)).deepen recorder.level] := by
        simp [Recorder.push, Draft.entry, Entry.deepen, Recorder.pendingRow, Recorder.wantedAnswer,
          Recorder.level, under.flipped]
      rw [entries, opened, List.append_assoc, List.map_cons, Entry.map_deepen_deepen,
        Recorder.level_push, Nat.add_comm]
      rfl

theorem Yields.exists_within {run : Recording Attempt} {verdict : Except Fault Attempt}
    (draft : Draft) (body : run.Yields settings flipped verdict left) :
    ∃ entry : Entry, entry.IsFor draft.kind draft.form 0 ∧
      (Recording.within draft run).Yields settings flipped (verdict.map Attempt.outcome)
        (entry :: left.map (Entry.deepen 1)) :=
  ⟨_, draft.isFor_entry settings flipped verdict, body.within draft⟩

/-- A part in a recording of its own is appended when it ends. -/
theorem Yields.inChild (body : run.Yields settings flipped (.ok result) left) :
    (inChild run).Yields settings flipped (.ok result) left := by
  obtain ⟨rows, rfl, ends⟩ := body
  refine ⟨rows, rfl, fun recorder under => ?_⟩
  obtain ⟨events, ran⟩ := ends recorder.child under.child
  have unmoved : rows.map (Row.deepen recorder.child.level) = rows := List.map_id' rows
  rw [unmoved] at ran
  have closed : (recorder.child.note rows events).entries.toList = rows.map Entry.closed := by
    simp [Recorder.child, Recorder.note]
  have appended : importChild (recorder.child.note rows events) recorder.level recorder = _ :=
    Recorder.importChild_closed recorder.level rfl closed
  refine ⟨(recorder.child.note rows events).journal.toList, ?_⟩
  simp only [Recording.inChild, ran, appended]

/-- A part in a recording of its own is lost when it breaks off. -/
theorem Yields.inChild_error (body : run.Yields settings flipped (.error fault) left) :
    (Recording.inChild run).Yields settings flipped (.error fault) [] := by
  intro recorder under
  obtain ⟨after, aborted, -⟩ := body recorder.child under.child
  exact ⟨recorder, by simp only [Recording.inChild, aborted], (List.append_nil _).symm⟩

end Laws

/-!
### Regularity

What a tree gives and leaves depends on a recorder only through settings, polarity and level.
-/

/-- A computation yields the same in all recorders that work under the same settings and
polarity. -/
def IsRegular (run : Recording α) : Prop :=
  ∀ settings flipped, ∃ verdict left, run.Yields settings flipped verdict left

section Regularity

variable {run : Recording α} {next : α → Recording β}

theorem isRegular_pure (result : α) : IsRegular (pure result) :=
  fun _ _ => ⟨_, _, yields_pure result⟩

theorem isRegular_ofExcept (given : Except Fault α) : IsRegular (ofExcept given) :=
  fun _ _ => ⟨_, _, yields_ofExcept given⟩

theorem IsRegular.bind (first : run.IsRegular) (second : ∀ result, (next result).IsRegular) :
    IsRegular (run >>= next) := by
  intro settings flipped
  obtain ⟨verdict, left, yields⟩ := first settings flipped
  cases verdict with
  | error fault => exact ⟨_, _, yields.bind_error⟩
  | ok result =>
      obtain ⟨last, later, further⟩ := second result settings flipped
      exact ⟨_, _, yields.bind further⟩

theorem IsRegular.flippedIf (body : run.IsRegular) (condition : Bool) :
    (flippedIf condition run).IsRegular := by
  intro settings flipped
  cases condition with
  | false => exact body settings flipped
  | true =>
      obtain ⟨verdict, left, yields⟩ := body settings (!flipped)
      exact ⟨verdict, left, yields_flipped yields⟩

theorem IsRegular.within {run : Recording Attempt} (draft : Draft) (body : run.IsRegular) :
    (within draft run).IsRegular := by
  intro settings flipped
  obtain ⟨verdict, left, yields⟩ := body settings flipped
  exact ⟨_, _, yields.within draft⟩

theorem IsRegular.inChild (body : run.IsRegular) : (inChild run).IsRegular := by
  intro settings flipped
  obtain ⟨verdict, left, yields⟩ := body settings flipped
  cases verdict with
  | error fault => exact ⟨_, _, yields.inChild_error⟩
  | ok result => exact ⟨_, _, yields.inChild⟩

end Regularity

end Recording

open Recording (IsRegular)

theorem scan_isRegular {form : String} {cutOn default : Bool}
    {ask : Value → Recording (Outcome Value)} (each : ∀ item, (ask item).IsRegular)
    (items : List Value) : (scan form cutOn default ask items).IsRegular := by
  induction items with
  | nil => exact Recording.isRegular_pure _
  | cons item rest ih =>
      rw [scan]
      apply (each item).bind
      intro outcome
      apply (Recording.isRegular_ofExcept _).bind
      intro answer
      cases answer with
      | none => exact Recording.isRegular_pure _
      | some given =>
          by_cases found : given == cutOn
          · simp only [found, if_true]
            exact Recording.isRegular_pure _
          · simp only [found]
            exact ih

theorem Mapping.record_isRegular (mapping : Mapping) (continued : Bool) (input : Option Value) :
    (mapping.record continued input).IsRegular :=
  (Recording.isRegular_pure _).within _ |>.bind fun _ => Recording.isRegular_pure _

namespace Tree

/-- On any input, what evaluating the tree gives and leaves depends on settings and polarity
only. -/
def IsUniform (tree : Tree) : Prop :=
  ∀ input, (tree.eval input).IsRegular

theorem evalOperands_isRegular {operands : List Tree}
    (each : ∀ operand ∈ operands, operand.IsUniform) (connective : Connective) (lazily : Bool)
    (input : Option Value) : (evalOperands connective lazily operands input).IsRegular := by
  induction operands with
  | nil =>
      rw [evalOperands]
      exact Recording.isRegular_pure _
  | cons operand rest ih =>
      have later := ih fun other member => each other (List.mem_cons_of_mem operand member)
      rw [evalOperands]
      apply (each operand List.mem_cons_self input).bind
      intro outcome
      apply (Recording.isRegular_ofExcept _).bind
      intro answer
      by_cases stop : lazily && connective.settledBy answer
      · rw [if_pos stop]
        exact Recording.isRegular_pure _
      · rw [if_neg stop]
        exact later.bind fun _ => Recording.isRegular_pure _

theorem leaf_isUniform (check : Check) : IsUniform (.leaf check) := by
  intro input
  rw [eval]
  apply IsRegular.within
  intro settings flipped
  -- The check is asked for the answer wanted under the polarity, and only an event is told.
  refine ⟨.ok (check.ask (!flipped) input), [], [], rfl, fun recorder under => ?_⟩
  refine ⟨[.leafEvaluated check.name], ?_⟩
  have told : recorder.note [] [.leafEvaluated check.name] =
      recorder.tell (.leafEvaluated check.name) := by
    simp [Recorder.note, Recorder.tell]
  rw [List.map_nil, told, ← under.flipped]
  rfl

theorem junction_isUniform {operands : List Tree}
    (each : ∀ operand ∈ operands, operand.IsUniform) (connective : Connective) (lazily : Bool) :
    IsUniform (.junction connective lazily operands) := by
  intro input
  rw [eval]
  by_cases empty : operands.isEmpty
  · rw [if_pos empty]
    exact fun _ _ => ⟨_, _, Recording.yields_throw _⟩
  · rw [if_neg empty]
    apply IsRegular.within
    exact (evalOperands_isRegular each connective lazily input).bind fun _ =>
      Recording.isRegular_pure _

theorem negation_isUniform {target : Tree} (part : target.IsUniform) :
    IsUniform (.negation target) := by
  intro input
  rw [eval]
  apply IsRegular.within
  apply ((part input).flippedIf true).bind
  intro outcome
  apply (Recording.isRegular_ofExcept _).bind
  intro answer
  cases answer <;> exact Recording.isRegular_pure _

theorem chain_isUniform {tail : Tree} (part : tail.IsUniform) (head : Mapping) :
    IsUniform (.chain head tail) := by
  intro input
  rw [eval]
  apply (head.record_isRegular true input).bind
  intro outcome
  exact (part outcome.value?).bind fun _ => Recording.isRegular_pure _

theorem transform_isUniform {mapper checker : Tree} (first : mapper.IsUniform)
    (second : checker.IsUniform) : IsUniform (.transform mapper checker) := by
  intro input
  rw [eval]
  by_cases identity : mapper.isIdentity
  · rw [if_pos identity]
    exact second input
  · rw [if_neg identity]
    have mapping := ((first input).inChild.bind fun outcome =>
      Recording.isRegular_pure { outcome := outcome.withOrigin .transform }).within
        { kind := .transform, form := "transform", input }
    apply mapping.bind
    intro mapped
    have checking := ((second mapped.value?).bind fun outcome =>
      Recording.isRegular_pure
        { outcome := if mapped.value?.isSome then outcome else .skipped }).within
          { kind := .check, form := "check", input := mapped.value? }
    exact checking.bind fun _ => Recording.isRegular_pure _

theorem quantifier_isUniform {predicate : Tree} (part : predicate.IsUniform)
    (cutOn default : Bool) : IsUniform (.quantifier predicate cutOn default) := by
  intro input
  cases input with
  | none =>
      rw [eval]
      apply IsRegular.within
      exact ((part none).flippedIf _).bind fun _ => Recording.isRegular_pure _
  | some value =>
      rw [eval]
      apply IsRegular.within
      cases value.list? with
      | error failure => exact Recording.isRegular_pure _
      | ok items =>
          exact (scan_isRegular (fun item => (part (some item)).flippedIf _) items).bind fun _ =>
            Recording.isRegular_pure _

theorem curried_isUniform {enclosed : Tree} (part : enclosed.IsUniform) (slot : Nat) :
    IsUniform (.curried enclosed slot) := by
  intro input
  cases input with
  | none =>
      rw [eval]
      apply IsRegular.within
      exact (part none).bind fun _ => Recording.isRegular_pure _
  | some value =>
      rw [eval]
      apply IsRegular.within
      cases value.slot? slot with
      | error failure => exact Recording.isRegular_pure _
      | ok content =>
          exact (part (some content)).bind fun _ => Recording.isRegular_pure _

theorem eval_isRegular (tree : Tree) : tree.IsUniform := by
  induction tree with
  | leaf check => exact leaf_isUniform check
  | junction connective lazily operands ih => exact junction_isUniform ih connective lazily
  | negation target ih => exact negation_isUniform ih
  | function head => exact fun input => head.record_isRegular false input
  | chain head tail ih => exact chain_isUniform ih head
  | transform mapper checker mapperIH checkerIH => exact transform_isUniform mapperIH checkerIH
  | quantifier predicate cutOn default ih => exact quantifier_isUniform ih cutOn default
  | curried enclosed slot ih => exact curried_isUniform ih slot

end Tree

namespace Recorder

variable {recorder : Recorder} {tree : Tree} {input : Option Value}
  {verdict : Except Fault (Outcome Value)} {left : List Entry}

/-- What a tree yields is what is seen of it in one recorder. -/
theorem collects_of_yields
    (yields : (tree.eval input).Yields recorder.settings recorder.flipped verdict left) :
    recorder.Collects tree input (left.map (Entry.deepen recorder.level)) := by
  cases verdict with
  | ok outcome =>
      obtain ⟨rows, rfl, ends⟩ := yields
      obtain ⟨events, ran⟩ := ends recorder ⟨rfl, rfl⟩
      rw [Collects, Recording.reached, ran, Recording.map_deepen_closed]
      exact recorder.appends_note _ events
  | error fault =>
      obtain ⟨after, aborted, entries⟩ := yields recorder ⟨rfl, rfl⟩
      rw [Collects, Recording.reached, aborted]
      exact entries

theorem verdict_of_yields
    (yields : (tree.eval input).Yields recorder.settings recorder.flipped verdict left) :
    (tree.eval input).verdict recorder = verdict := by
  cases verdict with
  | ok outcome =>
      obtain ⟨rows, -, ends⟩ := yields
      obtain ⟨events, ran⟩ := ends recorder ⟨rfl, rfl⟩
      rw [Recording.verdict, ran]
  | error fault =>
      obtain ⟨after, aborted, -⟩ := yields recorder ⟨rfl, rfl⟩
      rw [Recording.verdict, aborted]

/-- A tree yields what it gives and leaves in any one recorder, told as at the outermost level. -/
theorem exists_yields (recorder : Recorder) (tree : Tree) (input : Option Value) :
    ∃ left, (tree.eval input).Yields recorder.settings recorder.flipped
        ((tree.eval input).verdict recorder) left ∧
      recorder.remains tree input = left.map (Entry.deepen recorder.level) := by
  obtain ⟨verdict, left, yields⟩ := tree.eval_isRegular input recorder.settings recorder.flipped
  rw [verdict_of_yields yields]
  exact ⟨left, yields, (collects_of_yields yields).remains_eq⟩

/-- What a tree leaves comes behind what was recorded before, and changes nothing of that. -/
theorem collects_remains (recorder : Recorder) (tree : Tree) (input : Option Value) :
    recorder.Collects tree input (recorder.remains tree input) := by
  obtain ⟨left, yields, remains⟩ := recorder.exists_yields tree input
  rw [remains]
  exact collects_of_yields yields

end Recorder

end Rationale
