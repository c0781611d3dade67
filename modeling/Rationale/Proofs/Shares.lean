/-
Module: Rationale.Proofs.Shares
Purpose: What the parts visited in a round leave on their own, and what becomes of a round when each
  part is asked in another form.
Main exports: Recorder.Gains, Share, Visit.share, rows_forestOf, Inquiry.ask, visit_cons, visit_map,
  Row.ofJunction, Tree.account_junction_map
-/
import Rationale.Proofs.Following
import Rationale.Proofs.Negation

namespace Rationale

/-- Evaluating a tree here gives an outcome and appends rows. -/
def Recorder.Gains (recorder : Recorder) (tree : Tree) (input : Option Value)
    (outcome : Outcome Value) (rows : List Row) : Prop :=
  ∃ after, tree.eval input recorder = .ok outcome after ∧ recorder.Appends after rows

theorem Recorder.gains_of_account (recorder : Recorder) {tree : Tree} {input : Option Value}
    {account : Account}
    (given : tree.account recorder.settings recorder.flipped input = .ok account) :
    recorder.Gains tree input account.outcome (account.forest.rows recorder.level) :=
  ⟨_, Tree.eval_of_account_ok given, recorder.appends_extend _⟩

theorem Recorder.appends_of_rows {forest : Forest} {rows : List Row} (recorder : Recorder)
    (listed : forest.rows recorder.level = rows) :
    recorder.Appends (recorder.extend forest) rows :=
  listed ▸ recorder.appends_extend forest

/-- What one of several parts gives on its own, and the rows that it leaves. -/
structure Share (α : Type) where
  part : α
  outcome : Outcome Value
  rows : List Row

/-- The answer in a share, if a Boolean was returned. -/
def Share.answer {α : Type} (share : Share α) : Option Bool :=
  share.outcome.value?.bind Value.bool?

/-- The opposite answer, and any other outcome as it is. -/
def Outcome.opposite (outcome : Outcome Value) : Outcome Value :=
  { outcome with result := outcome.result.opposite }

theorem Outcome.bool?_of_answer? {outcome : Outcome Value} {form : String} {answer : Option Bool}
    (answered : outcome.answer? form = .ok answer) :
    outcome.value?.bind Value.bool? = answer := by
  obtain ⟨result, origin⟩ := outcome
  cases result with
  | returned value =>
      cases value with
      | bool given =>
          cases answered
          rfl
      | _ => cases answered
  | _ =>
      cases answered
      rfl

/-!
### Rounds

A part is asked by evaluating it and taking its answer.  Where each part is asked in another form
that comes to the same but for what is made of it, the round goes the same way.
-/

section Rounds

variable {α β γ : Type}

/-- Evaluates a part and takes its answer. -/
def Inquiry.ask (inquiry : Inquiry α) : Except Fault (Visit α) := do
  let account ← inquiry.result
  let answer ← account.outcome.answer? inquiry.form
  return ⟨inquiry.subject, account, answer⟩

theorem visit_cons (stops : Option Bool → Bool) (inquiry : Inquiry α)
    (rest : List (Inquiry α)) :
    visit stops (inquiry :: rest) = inquiry.ask.bind fun first =>
      if stops first.answer then .ok [first] else (visit stops rest).map (first :: ·) := by
  rw [Inquiry.ask]
  cases given : inquiry.result with
  | error fault =>
      rw [visit_of_fault given]
      rfl
  | ok account =>
      simp only [bind, Except.bind]
      cases answered : account.outcome.answer? inquiry.form with
      | error fault => rw [visit_of_refusal given answered]
      | ok answer =>
          cases go : stops answer with
          | true => simp [visit_of_stop given answered go, pure, Except.pure, go]
          | false => simp [visit_of_go given answered go, pure, Except.pure, go]

/-- Two rounds in which each part comes to the same, but for what `become` makes of it, visit the
same parts. -/
theorem visit_map {stops other : Option Bool → Bool} {subjects : List γ} {first : γ → Inquiry α}
    {second : γ → Inquiry β} {become : Visit α → Visit β}
    (each : ∀ subject ∈ subjects, (second subject).ask = (first subject).ask.map become)
    (alike : ∀ visit, other (become visit).answer = stops visit.answer) :
    visit other (subjects.map second) = (visit stops (subjects.map first)).map (·.map become) := by
  induction subjects with
  | nil => rfl
  | cons subject rest ih =>
      have later := ih fun part member => each part (List.mem_cons_of_mem subject member)
      rw [List.map_cons, List.map_cons, visit_cons, visit_cons, each subject List.mem_cons_self,
        later]
      cases (first subject).ask with
      | error fault => rfl
      | ok visited =>
          simp only [Except.map, Except.bind, alike]
          by_cases stop : stops visited.answer
          · rw [if_pos stop, if_pos stop]
            rfl
          · rw [if_neg stop, if_neg stop]
            cases visit stops (rest.map first) <;> rfl

/-- A visit's share in the rows at a level. -/
def Visit.share (level : Nat) (name : α → β) (visit : Visit α) : Share β where
  part := name visit.subject
  outcome := visit.account.outcome
  rows := visit.account.forest.rows level

theorem rows_forestOf (level levels : Nat) (name : α → β) (visits : List (Visit α)) :
    (forestOf visits).rows (level + levels) =
      (visits.map (Visit.share level name)).flatMap fun share =>
        share.rows.map (Row.deepen levels) := by
  induction visits with
  | nil => rfl
  | cons visit rest ih =>
      rw [forestOf, Forest.rows_append, ih, List.map_cons, List.flatMap_cons, Visit.share,
        Forest.map_deepen_rows]

end Rounds

/-- The row of a junction, which differs from that of a negation in name and kind. -/
def Row.ofJunction (connective : Connective) (lazily : Bool) (level : Nat) (flipped : Bool)
    (input : Option Value) (outcome : Outcome Value) : Row :=
  { Row.ofNegation level flipped input outcome with
    form := connective.form lazily
    kind := connective.kind }

/-- The account of a junction leaves its row, the same under all settings, and those inside. -/
theorem Account.rows_junction {settings : Settings} (connective : Connective)
    (lazily flipped : Bool) (input : Option Value) (operands : List Tree) (outcome : Outcome Value)
    (inner : Forest) (level : Nat) :
    (Account.within settings flipped (Tree.draft input (.junction connective lazily operands))
      { outcome } inner).forest.rows level =
      .ofJunction connective lazily level flipped input outcome :: inner.rows (level + 1) := by
  rw [within, Draft.row, ite_self]
  cases connective <;> exact congrArg (List.cons _) (List.append_nil _)

/-- The account of a junction, from the visits to its operands. -/
theorem Tree.account_junction_map {settings : Settings} {connective : Connective}
    {lazily flipped : Bool} {operands : List Tree} {input : Option Value}
    (nonempty : operands ≠ []) :
    account settings (.junction connective lazily operands) flipped input =
      (visit (fun answer => lazily && connective.settledBy answer) (operands.map fun operand =>
        ⟨operand, operand.form, account settings operand flipped input⟩)).map fun visits =>
          .within settings flipped (draft input (.junction connective lazily operands))
            { outcome := .ofAnswer (connective.conclude (answersOf visits)) }
            (forestOf visits) := by
  have occupied : ¬ operands.isEmpty = true := by simpa using nonempty
  rw [account, if_neg occupied, accountEach_eq_map]
  cases visit _ (operands.map _) <;> rfl

end Rationale
