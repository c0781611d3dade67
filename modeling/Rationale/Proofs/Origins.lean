/-
Module: Rationale.Proofs.Origins
Purpose: Where the rows of an evaluation come from, and where its failures were raised.
Main exports: Row.IsOf, Row.Raised, Forest.Raises, Tree.Evaluates.raises, Tree.Leaves,
  Tree.Leaves.raises, Tree.Evaluates.leaves
-/
import Rationale.Proofs.Derivation
import Rationale.Proofs.Places
import Rationale.Proofs.Rounds
import Rationale.Proofs.Shape

namespace Rationale

/-- The row is the one that a check leaves which is asked on some input, under some polarity. -/
def Row.IsOf (settings : Settings) (check : Check) (row : Row) : Prop :=
  ∃ flipped input, row = Row.atLevel row.level
    ((Tree.draft input (.leaf check)).row settings flipped (check.ask (!flipped) input))

/-- The row is one that failed on a value that it was given. -/
def Row.Raised (settings : Settings) (failure : Failure) (row : Row) : Prop :=
  ∃ (draft : Draft) (flipped : Bool) (value : Value),
    draft.input = some value ∧ row = draft.row settings flipped (.failed value failure)

/-- Somewhere in the forest a row without rows inside has raised the failure. -/
def Forest.Raises (settings : Settings) (failure : Failure) (forest : Forest) : Prop :=
  forest.Somewhere fun row inner => inner = .nil ∧ row.Raised settings failure

/-!
### Failures

A failure that a part comes to was raised by the part itself or by one of those it has its outcome
from.
-/

/-- Only on a value does a check fail, and its detail is that of the failure. -/
theorem Check.ask_of_thrown {check : Check} {wanted : Bool} {input : Option Value}
    {failure : Failure} (thrown : (check.ask wanted input).outcome.result = .thrown failure) :
    ∃ value, input = some value ∧ check.ask wanted input = .failed value failure := by
  cases input with
  | none => cases thrown
  | some value =>
      rw [ask] at thrown ⊢
      cases tested : check.test value with
      | ok answer =>
          rw [tested] at thrown
          cases thrown
      | error other =>
          rw [tested] at thrown
          cases thrown
          exact ⟨value, rfl, rfl⟩

/-- Only on a value does a mapping fail, and its detail is that of the failure. -/
theorem Mapping.attempt_of_thrown {mapping : Mapping} {input : Option Value} {failure : Failure}
    (thrown : (mapping.attempt input).outcome.result = .thrown failure) :
    ∃ value, input = some value ∧ mapping.attempt input = .failed value failure := by
  cases input with
  | none => cases thrown
  | some value =>
      rw [attempt] at thrown ⊢
      cases applied : mapping.apply value with
      | ok result =>
          rw [applied] at thrown
          cases thrown
      | error other =>
          rw [applied] at thrown
          cases thrown
          exact ⟨value, rfl, rfl⟩

@[simp] theorem Cell.ofResult_eq_thrown_iff {result : Result Value} {failure : Failure} :
    Cell.ofResult result = .thrown failure ↔ result = .thrown failure := by
  cases result <;> simp [ofResult]

@[simp] theorem Cell.ofResult_eq_value_iff {result : Result Value} {value : Value} :
    Cell.ofResult result = .value value ↔ result = .returned value := by
  cases result <;> simp [ofResult]

theorem Outcome.ofAnswer_ne_thrown {answer : Option Bool} {failure : Failure} :
    (Outcome.ofAnswer answer).result ≠ .thrown failure := by
  intro thrown
  cases answer <;> cases thrown

/-- Turning an answer round raises no failure. -/
theorem Outcome.thrown_of_negated {outcome : Outcome Value} {answer : Option Bool}
    {failure : Failure} (thrown : (outcome.negated answer).result = .thrown failure) :
    outcome.result = .thrown failure := by
  cases answer with
  | none => exact thrown
  | some answer => cases thrown

/-- A stage that is skipped without an input raises no failure. -/
theorem Outcome.thrown_of_given {input : Option Value} {outcome : Outcome Value} {failure : Failure}
    (thrown : (if input.isSome then outcome else .skipped).result = .thrown failure) :
    outcome.result = .thrown failure := by
  cases input with
  | none => cases thrown
  | some value => exact thrown

section Stages

variable {settings : Settings} {flipped : Bool} {draft : Draft} {first last : Account}
  {input : Option Value} {failure : Failure}

/-- A failure of two stages is a failure of one of them. -/
theorem Account.thrown_of_andThen
    (thrown : (first.andThen last).outcome.result = .thrown failure) :
    first.outcome.result = .thrown failure ∨ last.outcome.result = .thrown failure := by
  cases produced : first.outcome.value? with
  | none =>
      rw [outcome_andThen_of_none last produced] at thrown
      exact Or.inl thrown
  | some next =>
      rw [outcome_andThen_of_some last produced] at thrown
      exact Or.inr thrown

theorem Account.raises_of_failed {value : Value} (given : draft.input = some value) :
    (Account.within settings flipped draft (.failed value failure) .nil).forest.Raises settings
      failure :=
  Or.inl ⟨rfl, draft, flipped, value, given, rfl⟩

theorem Check.raises {check : Check} {wanted : Bool} (given : draft.input = input)
    (thrown : (check.ask wanted input).outcome.result = .thrown failure) :
    (Account.within settings flipped draft (check.ask wanted input) .nil).forest.Raises settings
      failure := by
  obtain ⟨value, rfl, failed⟩ := check.ask_of_thrown thrown
  rw [failed]
  exact Account.raises_of_failed given

theorem Mapping.raises {mapping : Mapping} (given : draft.input = input)
    (thrown : (mapping.account settings flipped draft input).outcome.result = .thrown failure) :
    (mapping.account settings flipped draft input).forest.Raises settings failure := by
  obtain ⟨value, rfl, failed⟩ := mapping.attempt_of_thrown thrown
  rw [account, failed]
  exact Account.raises_of_failed given

end Stages

namespace Tree

/-- A failure that a part comes to was raised in one of its rows. -/
theorem Evaluates.raises {settings : Settings} {tree : Tree} {flipped : Bool}
    {input : Option Value} {account : Account} {failure : Failure}
    (evaluates : Evaluates settings tree flipped input account)
    (thrown : account.outcome.result = .thrown failure) :
    account.forest.Raises settings failure := by
  -- By induction on the derivation: every part around hands the failure on as it is, so it leads to
  -- a part without parts that came to it by itself.
  induction evaluates with
  | leaf => exact Check.raises rfl thrown
  | junction => exact absurd thrown Outcome.ofAnswer_ne_thrown
  | negation _ _ ih => exact (ih (Outcome.thrown_of_negated thrown)).inside _
  | function => exact Mapping.raises rfl thrown
  | chain headed _ ih =>
      rcases Account.thrown_of_andThen thrown with early | late
      · rw [headed] at early ⊢
        exact (Mapping.raises rfl early).append_left _
      · exact (ih late).append_right _
  | identity _ _ ih => exact ih thrown
  | transform _ _ staged _ mapped checked =>
      rcases Account.thrown_of_andThen thrown with early | late
      · rw [staged] at early ⊢
        exact ((mapped early).inside _).append_left _
      · exact ((checked (Outcome.thrown_of_given late)).inside _).append_right _
  | quantifierSkipped => cases thrown
  | quantifierRefused =>
      cases thrown
      exact Account.raises_of_failed rfl
  | quantifier _ _ _ _ _ ih =>
      obtain ⟨visit, member, failed⟩ := searchOutcome_of_thrown thrown
      exact ((ih visit member failed).of_visit member).inside _
  | curriedSkipped _ ih => exact (ih thrown).inside _
  | curriedRefused =>
      cases thrown
      exact Account.raises_of_failed rfl
  | curried _ _ ih => exact (ih thrown).inside _

/-!
### Rows

A row without rows inside is that of a check, of a mapping, of a value that could not be taken
apart, or of a list without items.  Any other row says nothing of its own: it has no detail, and a
failure in it was raised further in.
-/

/-- How a row with the rows inside it can come about when a tree is evaluated. -/
inductive Leaves (settings : Settings) (tree : Tree) : Row → Forest → Prop where
  | asked {check : Check} {flipped : Bool} {input : Option Value}
      (contained : tree.Contains (.leaf check)) :
      Leaves settings tree
        ((draft input (.leaf check)).row settings flipped (check.ask (!flipped) input)) .nil
  | applied {draft : Draft} {mapping : Mapping} {flipped : Bool}
      (isFunction : draft.kind = .function) :
      Leaves settings tree (draft.row settings flipped (mapping.attempt draft.input)) .nil
  | refused {draft : Draft} {flipped : Bool} {value : Value} {failure : Failure}
      (takesApart : draft.kind = .quantifier ∨ draft.kind = .curried)
      (given : draft.input = some value) :
      Leaves settings tree (draft.row settings flipped (.failed value failure)) .nil
  | unasked {draft : Draft} {flipped default : Bool} (isQuantifier : draft.kind = .quantifier) :
      Leaves settings tree
        (draft.row settings flipped { outcome := .returned (.bool default) }) .nil
  | concluded {draft : Draft} {flipped : Bool} {outcome : Outcome Value} {inner : Forest}
      (notLeaf : draft.kind ≠ .leaf) (occupied : inner ≠ .nil)
      (raised : ∀ failure, outcome.result = .thrown failure → inner.Raises settings failure) :
      Leaves settings tree (draft.row settings flipped { outcome }) inner

section Rows

variable {settings : Settings} {tree part : Tree} {row : Row} {inner : Forest}

theorem Leaves.of_part (leaves : Leaves settings part row inner) (member : part ∈ tree.parts) :
    Leaves settings tree row inner := by
  cases leaves with
  | asked contained => exact .asked (.within member contained)
  | applied isFunction => exact .applied isFunction
  | refused takesApart given => exact .refused takesApart given
  | unasked isQuantifier => exact .unasked isQuantifier
  | concluded notLeaf occupied raised => exact .concluded notLeaf occupied raised

/-- A failure that a row shows was raised by the row or further in. -/
theorem Leaves.raises (leaves : Leaves settings tree row inner) {failure : Failure}
    (shown : row.actual.output = .thrown failure) :
    (Forest.node row inner).Raises settings failure := by
  cases leaves with
  | asked => exact Check.raises rfl (Cell.ofResult_eq_thrown_iff.mp shown)
  | @applied draft mapping flipped _ =>
      have thrown := Cell.ofResult_eq_thrown_iff.mp shown
      obtain ⟨value, given, failed⟩ := mapping.attempt_of_thrown thrown
      rw [failed]
      exact Account.raises_of_failed given
  | refused _ given =>
      cases shown
      exact Account.raises_of_failed given
  | unasked => cases shown
  | concluded _ _ raised => exact (raised failure (Cell.ofResult_eq_thrown_iff.mp shown)).inside _

end Rows

theorem forestOf_ne_nil {α : Type} {visits : List (Visit α)} (nonempty : visits ≠ [])
    (each : ∀ visit ∈ visits, visit.account.forest ≠ .nil) : forestOf visits ≠ .nil := by
  cases visits with
  | nil => exact absurd rfl nonempty
  | cons visit rest =>
      have occupied := each visit (by simp)
      rw [forestOf]
      cases left : visit.account.forest with
      | nil => exact absurd left occupied
      | cons row inner beside => exact Forest.noConfusion

theorem leaves_of_part {settings : Settings} {tree part : Tree} {forest : Forest}
    (inside : forest.Everywhere (Leaves settings part)) (member : part ∈ tree.parts) :
    forest.Everywhere (Leaves settings tree) :=
  inside.mono fun _ _ leaves => leaves.of_part member

/-- A row around those of a part that it has its failures from. -/
theorem Evaluates.leaves_around {settings : Settings} {tree part : Tree} {flipped inside : Bool}
    {draft : Draft} {outcome : Outcome Value} {input : Option Value} {inner : Account}
    (evaluates : Evaluates settings part inside input inner)
    (leaves : inner.forest.Everywhere (Leaves settings part)) (member : part ∈ tree.parts)
    (notLeaf : draft.kind ≠ .leaf)
    (passed : ∀ failure, outcome.result = .thrown failure →
      inner.outcome.result = .thrown failure) :
    (Account.within settings flipped draft { outcome } inner.forest).forest.Everywhere
      (Leaves settings tree) := by
  refine .node (.concluded notLeaf evaluates.forest_ne_nil ?_) (leaves_of_part leaves member)
  exact fun failure thrown => evaluates.raises (passed failure thrown)

/-- Every row of an evaluation comes about in one of the ways, with the rows inside it. -/
theorem Evaluates.leaves {settings : Settings} {tree : Tree} {flipped : Bool}
    {input : Option Value} {account : Account}
    (evaluates : Evaluates settings tree flipped input account) :
    account.forest.Everywhere (Leaves settings tree) := by
  induction evaluates with
  | leaf => exact .node (.asked .self) trivial
  | @junction connective lazily flipped operands input visits inOrder asked evaluated _ ih =>
      have occupied :=
        forestOf_ne_nil asked fun visit member => (evaluated visit member).forest_ne_nil
      refine .node (.concluded ?_ occupied ?_) (.of_visits fun visit member => ?_)
      · cases connective <;> exact Kind.noConfusion
      · exact fun failure thrown => absurd thrown Outcome.ofAnswer_ne_thrown
      · have operand : visit.subject ∈ operands := inOrder.subset (List.mem_map_of_mem member)
        exact leaves_of_part (ih visit member) operand
  | negation evaluated _ ih =>
      exact evaluated.leaves_around ih (by simp [parts]) Kind.noConfusion fun _ thrown =>
        Outcome.thrown_of_negated thrown
  | function => exact .node (.applied rfl) trivial
  | chain headed _ ih =>
      refine .append ?_ (leaves_of_part ih (by simp [parts]))
      rw [headed]
      exact .node (.applied rfl) trivial
  | identity _ _ ih => exact leaves_of_part ih (by simp [parts])
  | transform _ evaluated staged followed mapped checked =>
      refine .append ?_ ?_
      · rw [staged]
        exact evaluated.leaves_around mapped (by simp [parts]) Kind.noConfusion fun _ thrown =>
          thrown
      · exact followed.leaves_around checked (by simp [parts]) Kind.noConfusion fun _ thrown =>
          Outcome.thrown_of_given thrown
  | quantifierSkipped evaluated ih =>
      refine evaluated.leaves_around ih (by simp [parts]) Kind.noConfusion ?_
      intro failure thrown
      cases thrown
  | quantifierRefused => exact .node (.refused (Or.inl rfl) rfl) trivial
  | @quantifier predicate cutOn default flipped value items visits _ _ _ evaluated _ ih =>
      by_cases unvisited : visits = []
      · subst unvisited
        exact .node (.unasked rfl) trivial
      · have occupied :=
          forestOf_ne_nil unvisited fun visit member => (evaluated visit member).forest_ne_nil
        refine .node (.concluded Kind.noConfusion occupied ?_) (.of_visits fun visit member => ?_)
        · intro failure thrown
          obtain ⟨visit, member, failed⟩ := searchOutcome_of_thrown thrown
          exact ((evaluated visit member).raises failed).of_visit member
        · exact leaves_of_part (ih visit member) (by simp [parts])
  | curriedSkipped evaluated ih =>
      exact evaluated.leaves_around ih (by simp [parts]) Kind.noConfusion fun _ thrown => thrown
  | curriedRefused => exact .node (.refused (Or.inr rfl) rfl) trivial
  | curried _ evaluated ih =>
      exact evaluated.leaves_around ih (by simp [parts]) Kind.noConfusion fun _ thrown => thrown

end Tree

end Rationale
