/-
Module: Rationale.Proofs.Skipping
Purpose: A part whose input was never produced is passed over, and so is all of what is inside it.
Main exports: Row.isReached, Row.PassedOver, Draft.isReached_row, Tree.Evaluates.passedOver,
  Tree.Evaluates.skipped
-/
import Rationale.Proofs.Derivation
import Rationale.Proofs.Places
import Rationale.Proofs.Rounds

namespace Rationale

/-- Whether the input of the row was produced. -/
def Row.isReached (row : Row) : Bool :=
  match row.actual.input with
  | .skipped => false
  | _ => true

/-- The row of a part that was passed over: opened without an input and closed without a result,
with nothing to explain. -/
def Row.PassedOver (settings : Settings) (row : Row) (_ : Forest) : Prop :=
  ∃ (draft : Draft) (flipped : Bool) (outcome : Outcome Value),
    draft.input = none ∧ outcome.result = .skipped ∧ row = draft.row settings flipped { outcome }

section Drafts

variable {settings : Settings} {flipped : Bool} {draft : Draft} {attempt : Attempt} {inner : Forest}

@[simp] theorem Draft.isReached_row :
    (draft.row settings flipped attempt).isReached = draft.input.isSome := by
  simp only [Row.isReached, Draft.row, PendingRow.close, Recorder.pendingRow]
  cases draft.input <;> rfl

/-- The condition that a row was never reached, whatever is inside it. -/
def Row.Unreached (row : Row) (_ : Forest) : Prop :=
  row.isReached = false

theorem Row.PassedOver.unreached {row : Row} (passed : row.PassedOver settings inner) :
    row.Unreached inner := by
  obtain ⟨draft, flipped, outcome, absent, -, rfl⟩ := passed
  simp [Row.Unreached, absent]

theorem Account.passedOver_within {outcome : Outcome Value} (absent : draft.input = none)
    (skipped : outcome.result = .skipped) (inside : inner.Everywhere (Row.PassedOver settings)) :
    (Account.within settings flipped draft { outcome } inner).forest.Everywhere
      (Row.PassedOver settings) :=
  .node ⟨draft, flipped, outcome, absent, skipped, rfl⟩ inside

theorem Account.unreached_within (absent : draft.input = none)
    (inside : inner.Everywhere Row.Unreached) :
    (Account.within settings flipped draft attempt inner).forest.Everywhere Row.Unreached := by
  refine .node ?_ inside
  simp [Row.Unreached, absent]

end Drafts

theorem Outcome.answer_of_skipped {form : String} {outcome : Outcome Value} {answer : Option Bool}
    (skipped : outcome.result = .skipped) (answered : outcome.answer? form = .ok answer) :
    answer = none := by
  rw [answer?, skipped] at answered
  cases answered
  rfl

namespace Tree

/-- Without an input a part comes to nothing, and all of its rows were passed over. -/
theorem Evaluates.passedOver {settings : Settings} {tree : Tree} {flipped : Bool}
    {input : Option Value} {account : Account}
    (evaluates : Evaluates settings tree flipped input account) (absent : input = none) :
    account.outcome.result = .skipped ∧ account.forest.Everywhere (Row.PassedOver settings) := by
  induction evaluates with
  | leaf =>
      subst absent
      exact ⟨rfl, Account.passedOver_within rfl rfl trivial⟩
  | @junction connective lazily flipped operands input visits _ asked _ answered ih =>
      have undecided : ∀ answer ∈ answersOf visits, answer = none := by
        intro answer member
        obtain ⟨visit, isVisit, rfl⟩ := List.mem_map.mp member
        exact Outcome.answer_of_skipped (ih visit isVisit absent).1 (answered visit isVisit)
      have nonempty : answersOf visits ≠ [] := by simpa [answersOf] using asked
      have skipped : (Outcome.ofAnswer (connective.conclude (answersOf visits))).result =
          .skipped := by
        simp [connective.conclude_of_undecided nonempty undecided, Outcome.ofAnswer,
          Outcome.skipped]
      refine ⟨skipped, Account.passedOver_within absent skipped ?_⟩
      exact .of_visits fun visit member => (ih visit member absent).2
  | negation _ answered ih =>
      obtain ⟨skipped, inside⟩ := ih absent
      obtain rfl := Outcome.answer_of_skipped skipped answered
      exact ⟨skipped, Account.passedOver_within absent skipped inside⟩
  | function =>
      subst absent
      exact ⟨rfl, Account.passedOver_within rfl rfl trivial⟩
  | chain headed _ ih =>
      subst absent headed
      obtain ⟨-, later⟩ := ih rfl
      exact ⟨rfl, .append (Account.passedOver_within rfl rfl trivial) later⟩
  | identity _ _ ih => exact ih absent
  | @transform mapper checker flipped input mapping first checking _ _ staged _ mapped checked =>
      obtain ⟨skipped, inside⟩ := mapped absent
      have stopped : first.outcome.value? = none := by
        rw [staged]
        exact Outcome.value?_of_skipped skipped
      obtain ⟨-, later⟩ := checked stopped
      constructor
      · rw [Account.outcome_andThen_of_none _ stopped, staged]
        exact skipped
      · rw [stopped]
        apply Forest.Everywhere.append
        · rw [staged]
          exact Account.passedOver_within absent skipped inside
        · exact Account.passedOver_within rfl rfl later
  | quantifierSkipped _ ih => exact ⟨rfl, Account.passedOver_within rfl rfl (ih rfl).2⟩
  | quantifierRefused _ => cases absent
  | quantifier => cases absent
  | curriedSkipped _ ih =>
      obtain ⟨skipped, inside⟩ := ih rfl
      exact ⟨skipped, Account.passedOver_within rfl skipped inside⟩
  | curriedRefused _ => cases absent
  | curried => cases absent

/-- Without an input a part comes to nothing, and none of its rows was reached. -/
theorem Evaluates.skipped {settings : Settings} {tree : Tree} {flipped : Bool}
    {input : Option Value} {account : Account}
    (evaluates : Evaluates settings tree flipped input account) (absent : input = none) :
    account.outcome.result = .skipped ∧ account.forest.Everywhere Row.Unreached := by
  obtain ⟨skipped, passed⟩ := evaluates.passedOver absent
  exact ⟨skipped, passed.mono fun _ _ here => here.unreached⟩

end Tree

end Rationale
