/-
Module: Rationale.Proofs.Independence
Purpose: A part is evaluated alike in all recorders under the same settings and polarity, whatever
  else they hold, and alike in place and in a recording of its own that is appended afterwards.
Main exports: Recorder.appends_extend_deepen, Tree.eval_child, Tree.eval_independent
-/
import Rationale.Check.Stock
import Rationale.Mapping.Stock
import Rationale.Proofs.Following

namespace Rationale

/-- The rows of a forest are the same wherever they are appended, but for the level of the recorder,
by which all of them are moved inward. -/
theorem Recorder.appends_extend_deepen (recorder : Recorder) (forest : Forest) :
    recorder.Appends (recorder.extend forest)
      ((forest.rows 0).map (Row.deepen recorder.level)) := by
  rw [Forest.map_deepen_rows, Nat.zero_add]
  exact recorder.appends_extend forest

namespace Tree

variable {tree : Tree} {input : Option Value} {recorder : Recorder}

/-!
### Two runs of one part

What a run gives and which rows it leaves is told by the account, and the account depends on the
settings and the polarity only.  A child takes over both.
-/

theorem eval_child {account : Account}
    (given : tree.account recorder.settings recorder.flipped input = .ok account) :
    tree.eval input recorder.child = .ok account.outcome (recorder.child.extend account.forest) :=
  eval_of_account_ok given

theorem eval_child_aborts {fault : Fault}
    (given : tree.account recorder.settings recorder.flipped input = .error fault) :
    ∃ after, tree.eval input recorder.child = .error fault after := by
  have given : tree.account recorder.child.settings recorder.child.flipped input = .error fault :=
    given
  obtain ⟨-, after, aborted, -⟩ := eval_of_account_error given
  exact ⟨after, aborted⟩

/-- Evaluating a tree depends on the settings and the polarity of the recorder alone, and not on
what was recorded before or on which rows are open: two runs give the same outcome or abort with
the same fault, and the rows that they append are the same but for the levels, which differ as the
levels differ at which the runs start.  In particular a recording apart that is appended at the
current level adds the rows that the evaluation in place adds; only the events told meanwhile may
speak of other levels. -/
theorem eval_independent :
    (∀ (tree : Tree) (input : Option Value) (first second : Recorder),
      first.settings = second.settings → first.flipped = second.flipped →
      match tree.eval input first, tree.eval input second with
      | .ok outcome after, .ok other later =>
        outcome = other ∧ ∃ rows : List Row,
          first.Appends after (rows.map (Row.deepen first.level)) ∧
            second.Appends later (rows.map (Row.deepen second.level))
      | .error fault _, .error other _ => fault = other
      | _, _ => False) ∧
    ∀ (mapper : Tree) (input : Option Value) (recorder : Recorder),
      match mapper.eval input recorder.child with
      | .ok outcome stage => ∃ merged direct,
          recorder.append? stage recorder.level = .ok merged ∧
            mapper.eval input recorder = .ok outcome direct ∧
              (∃ rows, recorder.Appends merged rows ∧ recorder.Appends direct rows) ∧
                { merged with journal := direct.journal } = direct
      | .error fault _ => ∃ after, mapper.eval input recorder = .error fault after := by
  constructor
  · intro tree input first second settings polarity
    have same : tree.account second.settings second.flipped input =
        tree.account first.settings first.flipped input := by
      rw [settings, polarity]
    cases given : tree.account first.settings first.flipped input with
    | error fault =>
        obtain ⟨-, after, aborted, -⟩ := eval_of_account_error given
        obtain ⟨-, later, alike, -⟩ := eval_of_account_error (same.trans given)
        rw [aborted, alike]
    | ok account =>
        rw [eval_of_account_ok given, eval_of_account_ok (same.trans given)]
        refine ⟨rfl, account.forest.rows 0, ?_, ?_⟩
        · exact first.appends_extend_deepen account.forest
        · exact second.appends_extend_deepen account.forest
  · intro mapper input recorder
    cases given : mapper.account recorder.settings recorder.flipped input with
    | error fault =>
        obtain ⟨apart, failed⟩ := eval_child_aborts given
        obtain ⟨-, after, aborted, -⟩ := eval_of_account_error given
        rw [failed]
        exact ⟨after, aborted⟩
    | ok account =>
        have merges := recorder.append?_extend_child account.forest
        have direct := eval_of_account_ok given
        rw [eval_child given]
        refine ⟨_, _, merges, direct, ⟨_, recorder.appends_note _ _, ?_⟩, rfl⟩
        exact recorder.appends_extend account.forest

/-- A mapping stage with its check comes to the same and leaves the same rows in a fresh recorder
and one level further in below an open negation. -/
theorem eval_independent_of_open :
    let fresh : Recorder := { settings := {} }
    let opened := fresh.push { kind := .negation, form := "not", input := some (.text "ab") }
    let stages := transform (.function .length) (.leaf .isNull)
    ∃ outcome after later, stages.eval (some (.text "ab")) fresh = .ok outcome after ∧
      stages.eval (some (.text "ab")) opened = .ok outcome later ∧
        ∃ rows : List Row, fresh.Appends after (rows.map (Row.deepen 0)) ∧
          opened.Appends later (rows.map (Row.deepen 1)) := by
  intro fresh opened stages
  obtain ⟨outcome, after, first⟩ : ∃ outcome after,
    stages.eval (some (.text "ab")) fresh = .ok outcome after := ⟨_, _, rfl⟩
  obtain ⟨other, later, second⟩ : ∃ outcome after,
    stages.eval (some (.text "ab")) opened = .ok outcome after := ⟨_, _, rfl⟩
  clear_value stages
  have alike := eval_independent.1 stages (some (.text "ab")) fresh opened rfl rfl
  rw [first, second] at alike
  obtain ⟨rfl, rows, here, further⟩ := alike
  exact ⟨outcome, after, later, first, second, rows, here, further⟩

end Tree

end Rationale
