/-
Module: Rationale.Proofs.Discipline
Purpose: What an evaluation leaves of the recorder that it was given, whether it ends well or not.
Main exports: Recorder.Resumed, Tree.eval_disciplined
-/
import Rationale.Proofs.Derivation

namespace Rationale

/-- A recorder after a part that ended well: the same rows are open under the same settings and
polarity, nothing recorded before has changed, and what came after it are closed rows, at least
one. -/
structure Recorder.Resumed (before after : Recorder) : Prop where
  settings : after.settings = before.settings
  flipped : after.flipped = before.flipped
  lineage : after.lineage = before.lineage
  entries : ∃ rows : List Row, rows ≠ [] ∧
    after.entries.toList = before.entries.toList ++ rows.map Entry.closed

theorem Recorder.resumed_extend (recorder : Recorder) {forest : Forest}
    (nonempty : forest ≠ .nil) : recorder.Resumed (recorder.extend forest) where
  settings := rfl
  flipped := rfl
  lineage := rfl
  entries := ⟨_, Forest.rows_ne_nil nonempty, recorder.appends_extend forest⟩

namespace Tree

/-!
### Runs that end well and runs that abort

Both cases are read off the account that the run follows.  An account without a fault has a row for
the topmost part, so something was appended.
-/

theorem eval_resumes {tree : Tree} {input : Option Value} {recorder after : Recorder}
    {outcome : Outcome Value} (run : tree.eval input recorder = .ok outcome after) :
    recorder.Resumed after := by
  obtain ⟨account, given, -, rfl⟩ := account_of_eval_ok run
  exact recorder.resumed_extend (evaluates_of_account given).forest_ne_nil

theorem eval_abandons {tree : Tree} {input : Option Value} {recorder after : Recorder}
    {fault : Fault} (run : tree.eval input recorder = .error fault after) :
    ¬ fault.IsMisuse ∧ recorder.Abandoned after := by
  cases given : tree.account recorder.settings recorder.flipped input with
  | error other =>
      obtain ⟨proper, left, aborted, abandoned⟩ := eval_of_account_error given
      rw [run] at aborted
      cases aborted
      exact ⟨proper, abandoned⟩
  | ok account =>
      have ended := eval_of_account_ok given
      rw [run] at ended
      cases ended

theorem evaluate_proper {settings : Settings} {tree : Tree} {input : Value} {fault : Fault}
    (aborted : tree.evaluate settings input = .error fault) : ¬ fault.IsMisuse := by
  rw [evaluate_eq_account] at aborted
  cases valid : tree.validate with
  | error other =>
      rw [valid] at aborted
      cases aborted
      obtain ⟨connective, lazily, -, rfl⟩ := validate_error valid
      exact id
  | ok result =>
      rw [valid] at aborted
      have follows := tree.eval_follows (some input) { settings }
      cases given : tree.account settings false (some input) with
      | error other =>
          rw [given] at aborted follows
          cases aborted
          exact follows.1
      | ok account =>
          rw [given] at aborted
          cases aborted

/-- Evaluating a tree never misuses a recorder, whatever the recorder holds.  If it ends well, the
recorder goes on as before with closed rows added; if it aborts, nothing recorded before is lost
and the polarity is the one from before.  So no evaluation of a tree fails for misuse. -/
theorem eval_disciplined :
    (∀ (tree : Tree) (input : Option Value) (recorder : Recorder),
      match tree.eval input recorder with
      | .ok _ after => recorder.Resumed after
      | .error fault after => ¬ fault.IsMisuse ∧ recorder.Abandoned after) ∧
    ∀ (settings : Settings) (tree : Tree) (input : Value),
      match tree.evaluate settings input with
      | .ok _ => True
      | .error fault => ¬ fault.IsMisuse := by
  constructor
  · intro tree input recorder
    cases run : tree.eval input recorder with
    | ok outcome after => exact eval_resumes run
    | error fault after => exact eval_abandons run
  · intro settings tree input
    cases run : tree.evaluate settings input with
    | ok evaluation => trivial
    | error fault => exact evaluate_proper run

end Tree

end Rationale
