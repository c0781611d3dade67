/-
Module: Rationale.Proofs.Blame
Purpose: An evaluation that does not pass leaves a row that shows why.
Main exports: Row.IsRootCause, Forest.Blames, Tree.Evaluates.blames, Tree.evaluate_blames
-/
import Rationale.Proofs.Derivation
import Rationale.Proofs.Places
import Rationale.Proofs.Rounds
import Rationale.Proofs.Typing

namespace Rationale

namespace Row

/-- What a row can be wrong for without a row inside that is: the answer or failure of a check, the
failure of a mapping, a list without items or no list at all, or a slot that is not there. -/
inductive HasReason (row : Row) : Prop where
  | leaf (kind : row.kind = .leaf)
  | function {failure : Failure} (kind : row.kind = .function)
      (failed : row.actual.output = .thrown failure)
  | emptyList (kind : row.kind = .quantifier) (given : row.actual.input = .value (.list []))
  | noList {value : Value} {failure : Failure} (kind : row.kind = .quantifier)
      (given : row.actual.input = .value value) (refused : value.list? = .error failure)
  | noSlot {slot : Nat} {value : Value} {failure : Failure} (kind : row.kind = .curried)
      (form : row.form = Tree.curriedForm slot) (given : row.actual.input = .value value)
      (refused : value.slot? slot = .error failure)

/-- A row that was evaluated, went wrong, and has its reason in itself. -/
structure IsRootCause (row : Row) : Prop where
  mismatch : row.isMismatch = true
  evaluated : row.actual.output ≠ .skipped
  reason : row.HasReason

theorem HasReason.atLevel {row : Row} (reason : row.HasReason) (level : Nat) :
    (row.atLevel level).HasReason := by
  cases reason with
  | leaf kind => exact .leaf kind
  | function kind failed => exact .function kind failed
  | emptyList kind given => exact .emptyList kind given
  | noList kind given refused => exact .noList kind given refused
  | noSlot kind form given refused => exact .noSlot kind form given refused

theorem IsRootCause.atLevel {row : Row} (cause : row.IsRootCause) (level : Nat) :
    (row.atLevel level).IsRootCause :=
  ⟨cause.mismatch, cause.evaluated, cause.reason.atLevel level⟩

end Row

namespace Forest

/-- Somewhere in the forest a row without rows inside is a root cause. -/
def Blames : Forest → Prop
  | .nil => False
  | .cons row inner rest => inner = .nil ∧ row.IsRootCause ∨ inner.Blames ∨ rest.Blames

theorem blames_iff {forest : Forest} :
    forest.Blames ↔ forest.Somewhere fun row inner => inner = .nil ∧ row.IsRootCause := by
  induction forest with
  | nil => exact Iff.rfl
  | cons row inner rest innerIH restIH => simp only [Blames, Somewhere, innerIH, restIH]

theorem Blames.append_left {first : Forest} (blames : first.Blames) (second : Forest) :
    (first ++ second).Blames :=
  blames_iff.mpr ((blames_iff.mp blames).append_left second)

theorem Blames.append_right {second : Forest} (blames : second.Blames) (first : Forest) :
    (first ++ second).Blames :=
  blames_iff.mpr ((blames_iff.mp blames).append_right first)

theorem Blames.of_visit {α : Type} {visits : List (Visit α)} {visit : Visit α}
    (blames : visit.account.forest.Blames) (member : visit ∈ visits) :
    (forestOf visits).Blames :=
  blames_iff.mpr ((blames_iff.mp blames).of_visit member)

/-- The root cause has its place in the forest. -/
theorem Blames.place {forest : Forest} (blames : forest.Blames) (level : Nat) :
    ∃ above row, Place level forest above row .nil ∧ row.IsRootCause := by
  obtain ⟨above, below, row, shownAt, place, rfl, cause⟩ := (blames_iff.mp blames).place level
  exact ⟨above, row.atLevel shownAt, place, cause.atLevel shownAt⟩

end Forest

/-!
### Rows that go wrong

A failure is never what is expected, and of a row of a Boolean kind the answer that is not wanted is
not expected either.
-/

section Wrong

variable {settings : Settings} {flipped : Bool} {draft : Draft} {attempt : Attempt}

theorem Draft.isMismatch_of_thrown {failure : Failure}
    (thrown : attempt.outcome.result = .thrown failure) :
    (draft.row settings flipped attempt).isMismatch = true := by
  rw [Row.isMismatch, actual_row, thrown]
  cases boolean : draft.kind.isBoolean with
  | true =>
      rw [expected_row_of_boolean boolean]
      rfl
  | false =>
      rw [expected_row_of_valued boolean, thrown]
      rfl

theorem Draft.isMismatch_of_wrong (boolean : draft.kind.isBoolean = true)
    (wrong : attempt.outcome.result = .returned (.bool flipped)) :
    (draft.row settings flipped attempt).isMismatch = true := by
  rw [Row.isMismatch, actual_row, expected_row_of_boolean boolean, wrong]
  cases flipped <;> rfl

theorem Account.blames_of_inside {inner : Forest} (blames : inner.Blames) :
    (Account.within settings flipped draft attempt inner).forest.Blames :=
  Or.inr (Or.inl blames)

theorem Account.blames_of_thrown {failure : Failure}
    (thrown : attempt.outcome.result = .thrown failure)
    (reason : (draft.row settings flipped attempt).HasReason) :
    (Account.within settings flipped draft attempt .nil).forest.Blames := by
  have output : (draft.row settings flipped attempt).actual.output = .thrown failure := by
    rw [Draft.actual_row, thrown]
    rfl
  refine Or.inl ⟨rfl, Draft.isMismatch_of_thrown thrown, ?_, reason⟩
  rw [output]
  exact Cell.noConfusion

theorem Account.blames_of_wrong (boolean : draft.kind.isBoolean = true)
    (wrong : attempt.outcome.result = .returned (.bool flipped))
    (reason : (draft.row settings flipped attempt).HasReason) :
    (Account.within settings flipped draft attempt .nil).forest.Blames := by
  have output : (draft.row settings flipped attempt).actual.output = .value (.bool flipped) := by
    rw [Draft.actual_row, wrong]
    rfl
  refine Or.inl ⟨rfl, Draft.isMismatch_of_wrong boolean wrong, ?_, reason⟩
  rw [output]
  exact Cell.noConfusion

end Wrong

/-!
### Rounds

If a round comes to the wrong answer, so does one of the parts visited.
-/

/-- If a junction does not come to the wanted answer, one of its operands does not either. -/
theorem exists_wrong_of_conclude {α : Type} {visits : List (Visit α)} {connective : Connective}
    {wanted : Bool} (nonempty : visits ≠ [])
    (wrong : (Outcome.ofAnswer (connective.conclude (answersOf visits))).value? ≠
      some (.bool wanted)) :
    ∃ visit ∈ visits, visit.answer ≠ some wanted := by
  have answersNonempty : answersOf visits ≠ [] := by simpa [answersOf] using nonempty
  obtain ⟨visit, member, decides⟩ := List.mem_map.mp (connective.conclude_mem answersNonempty)
  refine ⟨visit, member, fun right => wrong ?_⟩
  show (Outcome.ofAnswer (connective.conclude (visits.map Visit.answer))).value? = _
  rw [← decides, right]
  rfl

/-- If a search does not come to the answer wanted around it, some item does not come to the one
wanted inside. -/
theorem exists_wrong_of_search {α : Type} {visits : List (Visit α)} {cutOn default flipped : Bool}
    (nonempty : visits ≠ [])
    (wrong : (searchOutcome cutOn default visits).value? ≠ some (.bool !flipped)) :
    ∃ visit ∈ visits, visit.answer ≠ some !(flipped != (cutOn == default)) := by
  obtain ⟨visit, member, decides⟩ := searchOutcome_eq cutOn default nonempty
  refine ⟨visit, member, fun right => wrong ?_⟩
  rw [decides, right]
  cases flipped <;> cases cutOn <;> cases default <;> rfl

/-- An outcome that is not what is wanted of the tree: no value, or the answer that is not. -/
def Outcome.Fails (tree : Tree) (flipped : Bool) (outcome : Outcome Value) : Prop :=
  outcome.value? = none ∨ tree.answers = true ∧ outcome.value? = some (.bool flipped)

theorem Outcome.value?_of_answer? {form : String} {outcome : Outcome Value} {answer : Option Bool}
    (answered : outcome.answer? form = .ok answer) : outcome.value? = answer.map Value.bool := by
  obtain ⟨result, origin⟩ := outcome
  cases result with
  | returned value =>
      cases value with
      | bool found =>
          cases answered
          rfl
      | _ => cases answered
  | thrown failure =>
      cases answered
      rfl
  | skipped =>
      cases answered
      rfl

theorem Outcome.Fails.of_answer {form : String} {tree : Tree} {flipped : Bool}
    {outcome : Outcome Value} {answer : Option Bool} (answering : tree.answers = true)
    (answered : outcome.answer? form = .ok answer) (wrong : answer ≠ some !flipped) :
    outcome.Fails tree flipped := by
  have value := outcome.value?_of_answer? answered
  cases answer with
  | none => exact Or.inl value
  | some answer =>
      obtain rfl : answer = flipped := by
        cases answer <;> cases flipped <;> first | rfl | exact absurd rfl wrong
      exact Or.inr ⟨answering, value⟩

theorem Outcome.Fails.unwanted {tree : Tree} {flipped : Bool} {outcome : Outcome Value}
    (fails : outcome.Fails tree flipped) : outcome.value? ≠ some (.bool !flipped) := by
  intro wanted
  rcases fails with absent | ⟨-, wrong⟩
  · rw [wanted] at absent
    cases absent
  · rw [wanted] at wrong
    cases flipped <;> cases wrong

/-- A check that gives nothing for a value, or not the wanted answer, has a row that shows it. -/
theorem Check.blames {settings : Settings} {flipped : Bool} {draft : Draft} {check : Check}
    {value : Value} (isLeaf : draft.kind = .leaf)
    (fails : (check.ask (!flipped) (some value)).outcome.Fails (.leaf check) flipped) :
    (Account.within settings flipped draft (check.ask (!flipped) (some value))
      .nil).forest.Blames := by
  have result := check.result_ask (!flipped) value
  cases tested : check.test value with
  | error failure =>
      rw [tested] at result
      exact Account.blames_of_thrown result (.leaf isLeaf)
  | ok answer =>
      rw [tested] at result
      have returned : (check.ask (!flipped) (some value)).outcome.value? = some (.bool answer) :=
        Outcome.value?_of_returned result
      obtain rfl : answer = flipped := by
        rcases fails with absent | ⟨-, wrong⟩
        · rw [returned] at absent
          cases absent
        · rw [returned] at wrong
          cases wrong
          rfl
      exact Account.blames_of_wrong (by rw [isLeaf]; rfl) result (.leaf isLeaf)

/-- A mapping that gives nothing for a value has failed, and its row says so. -/
theorem Mapping.blames {settings : Settings} {flipped : Bool} {draft : Draft} {mapping : Mapping}
    {value : Value} (isFunction : draft.kind = .function)
    (absent : (mapping.account settings flipped draft (some value)).outcome.value? = none) :
    (mapping.account settings flipped draft (some value)).forest.Blames := by
  have result := mapping.result_attempt value
  cases applied : mapping.apply value with
  | error failure =>
      rw [applied] at result
      have output : (draft.row settings flipped (mapping.attempt (some value))).actual.output =
          .thrown failure := by
        show Cell.ofResult (mapping.attempt (some value)).outcome.result = _
        rw [result]
        rfl
      exact Account.blames_of_thrown result (.function isFunction output)
  | ok next =>
      rw [applied] at result
      have produced : (mapping.attempt (some value)).outcome.value? = some next :=
        Outcome.value?_of_returned result
      have given : (mapping.attempt (some value)).outcome.value? = none := absent
      rw [produced] at given
      cases given

namespace Tree

/-- If a tree on a value does not come to what is wanted, there is a root cause among its rows. -/
theorem Evaluates.blames {settings : Settings} {tree : Tree} {flipped : Bool}
    {input : Option Value} {account : Account}
    (evaluates : Evaluates settings tree flipped input account) (asked : tree.WellAsked)
    (given : input.isSome) (fails : account.outcome.Fails tree flipped) :
    account.forest.Blames := by
  -- By induction on the derivation: what fails around a part fails in it, under the polarity that
  -- the part is evaluated with, until a row is reached that no other row explains.
  induction evaluates with
  | @leaf check flipped input =>
      obtain ⟨value, rfl⟩ := Option.isSome_iff_exists.mp given
      exact Check.blames rfl fails
  | @junction connective lazily flipped operands input visits inOrder nonempty evaluated answered
      ih =>
      obtain ⟨visit, member, wrong⟩ := exists_wrong_of_conclude nonempty fails.unwanted
      have operand : visit.subject ∈ operands := inOrder.subset (List.mem_map_of_mem member)
      have inside := ih visit member (asked.part operand) given
        (.of_answer (asked.answers operand) (answered visit member) wrong)
      exact Account.blames_of_inside (inside.of_visit member)
  | @negation target flipped input inner answer evaluated answered ih =>
      have wrong : answer ≠ some !(!flipped) := by
        rintro rfl
        refine fails.unwanted ?_
        simp [Account.within, Outcome.negated, Outcome.returned, Outcome.value?]
      exact Account.blames_of_inside (ih (asked.part (by simp [parts])) given
        (.of_answer (asked.answers (by simp [Tree.asked])) answered wrong))
  | @function head flipped input =>
      obtain ⟨value, rfl⟩ := Option.isSome_iff_exists.mp given
      rcases fails with absent | ⟨answering, -⟩
      · exact Mapping.blames rfl absent
      · cases answering
  | @chain head tail flipped input first last headed evaluated ih =>
      obtain ⟨value, rfl⟩ := Option.isSome_iff_exists.mp given
      cases produced : first.outcome.value? with
      | none =>
          have failed : first.forest.Blames := by
            rw [headed] at produced ⊢
            exact Mapping.blames rfl produced
          exact failed.append_left _
      | some next =>
          rw [Outcome.Fails, Account.outcome_andThen_of_some _ produced] at fails
          have later := ih (asked.part (by simp [parts])) (by rw [produced]; rfl) fails
          exact later.append_right _
  | @identity mapper checker flipped input account same evaluated ih =>
      exact ih (asked.part (by simp [parts])) given fails
  | @transform mapper checker flipped input mapping first checking distinct mapped staged checked
      mappedIH checkedIH =>
      cases produced : first.outcome.value? with
      | none =>
          have failed : first.forest.Blames := by
            rw [staged] at produced ⊢
            exact Account.blames_of_inside (mappedIH (asked.part (by simp [parts])) given
              (Or.inl produced))
          exact failed.append_left _
      | some next =>
          have closed : (checkingStage settings flipped first.outcome.value? checking).outcome =
              checking.outcome := by
            rw [produced]
            rfl
          rw [Outcome.Fails, Account.outcome_andThen_of_some _ produced, closed] at fails
          have later := checkedIH (asked.part (by simp [parts])) (by rw [produced]; rfl) fails
          exact (Account.blames_of_inside later).append_right _
  | quantifierSkipped => cases given
  | @quantifierRefused predicate cutOn default flipped value failure refused =>
      exact Account.blames_of_thrown rfl (.noList rfl rfl refused)
  | @quantifier predicate cutOn default flipped value items visits listed inOrder nonempty
      evaluated answered ih =>
      by_cases unvisited : visits = []
      · -- Nothing was visited, so the list has no items, and the default itself is wrong.
        subst unvisited
        obtain rfl : items = [] := by_contra fun occupied => nonempty occupied rfl
        obtain rfl : value = .list [] := by
          cases value with
          | list items =>
              cases listed
              rfl
          | _ => cases listed
        obtain rfl : default = flipped := by
          rcases fails with absent | ⟨-, wrong⟩
          · cases absent
          · cases wrong
            rfl
        exact Account.blames_of_wrong rfl rfl (.emptyList rfl rfl)
      · obtain ⟨visit, member, wrong⟩ := exists_wrong_of_search unvisited fails.unwanted
        have inside := ih visit member (asked.part (by simp [parts])) rfl
          (.of_answer (asked.answers (by simp [Tree.asked])) (answered visit member) wrong)
        exact Account.blames_of_inside (inside.of_visit member)
  | curriedSkipped => cases given
  | @curriedRefused enclosed slot flipped value failure refused =>
      exact Account.blames_of_thrown rfl (.noSlot rfl rfl rfl refused)
  | @curried enclosed slot flipped value content inner projected evaluated ih =>
      exact Account.blames_of_inside (ih (asked.part (by simp [parts])) rfl fails)

/-- A well-typed tree without empty junctions can be evaluated on every input, and if it does not
pass, some row of the trace went wrong, was evaluated, encloses no row and has its reason in
itself. -/
theorem evaluate_blames {tree : Tree} (typed : tree.WellTyped) (whole : tree.HasOperands)
    (settings : Settings) (input : Value) :
    ∃ evaluation, tree.evaluate settings input = .ok evaluation ∧
      (evaluation.passed = false → ∃ before row after,
        evaluation.trace = before ++ row :: after ∧ row.IsChildless after ∧
          row.IsRootCause) := by
  obtain ⟨account, given, answers⟩ := account_answers typed.2 whole settings false input
  refine ⟨account.evaluation settings, ?_, ?_⟩
  · rw [evaluate_eq_account, validate_eq_ok_iff.mpr whole, given]
    rfl
  · intro failed
    have fails : account.outcome.Fails tree false := by
      obtain ⟨answer, answered⟩ := answers typed.1 tree.form
      rw [Account.result, ← Outcome.answer?_eq_result] at answered
      refine .of_answer typed.1 answered ?_
      rintro rfl
      have returned := Outcome.value?_of_answer? answered
      simp [Evaluation.passed, Account.evaluation, returned] at failed
    have blames := (evaluates_of_account given).blames typed.2 rfl fails
    obtain ⟨above, row, place, cause⟩ := blames.place 0
    obtain ⟨before, rest, listed, childless⟩ := Forest.rows_of_place place
    exact ⟨before, row, rest, listed, childless, cause⟩

theorem evaluate_blames_of_noneMatch :
    ∃ evaluation, evaluate {} (noneMatch (.leaf .isTrue)) (.list [.bool false, .bool true]) =
        .ok evaluation ∧
      evaluation.passed = false ∧ ∃ before row after,
        evaluation.trace = before ++ row :: after ∧ row.IsChildless after ∧
          row.IsRootCause := by
  have leafAsked : WellAsked (.leaf .isTrue) := wellAsked_iff.mpr (by simp [asked, parts])
  have typed : WellTyped (noneMatch (.leaf .isTrue)) := by
    refine ⟨rfl, wellAsked_iff.mpr ⟨?_, ?_⟩⟩
    · simp [noneMatch, asked, answers]
    · simpa [noneMatch, parts] using leafAsked
  have whole : HasOperands (noneMatch (.leaf .isTrue)) := validate_eq_ok_iff.mp rfl
  obtain ⟨evaluation, evaluated, blames⟩ :=
    evaluate_blames typed whole {} (.list [.bool false, .bool true])
  have failed : evaluation.passed = false := by
    have run : evaluate {} (noneMatch (.leaf .isTrue)) (.list [.bool false, .bool true]) =
      .ok _ := rfl
    rw [run] at evaluated
    cases evaluated
    rfl
  exact ⟨evaluation, evaluated, failed, blames failed⟩

end Tree

end Rationale
