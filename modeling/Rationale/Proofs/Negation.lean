/-
Module: Rationale.Proofs.Negation
Purpose: A negation puts one row around the rows of its target and turns what they expect round; a
  double negation leaves them as they are.
Main exports: Result.opposite, Row.ofNegation, Row.Turned, Tree.eval_negation
-/
import Rationale.Proofs.Following
import Rationale.Proofs.Mirrors

namespace Rationale

/-- The opposite answer, and any other result as it is. -/
def Result.opposite : Result Value → Result Value
  | .returned (.bool answer) => .returned (.bool !answer)
  | other => other

theorem Result.opposite_opposite (result : Result Value) : result.opposite.opposite = result := by
  cases result with
  | returned value =>
      cases value with
      | bool answer =>
          exact congrArg (fun same => returned (Value.bool same)) (Bool.not_not answer)
      | _ => rfl
  | _ => rfl

/-- The row of a negation, which explains nothing, is never merged and always shown. -/
def Row.ofNegation (level : Nat) (flipped : Bool) (input : Option Value) (outcome : Outcome Value) :
    Row where
  form := "not"
  level := level
  kind := .negation
  continued := false
  expected := { input := .ofInput input, output := .value (.bool !flipped) }
  actual := { input := .ofInput input, output := .ofResult outcome.result }
  requiresExplanation := false
  mergeable := false
  ignored := false

/-- The second row is the first one, one level further in and with the other polarity: it has the
same name, kind, inputs and actual output, and it expects the opposite answer if it is a question,
and the same output if it is none. -/
structure Row.Turned (row other : Row) : Prop where
  level : other.level = row.level + 1
  form : other.form = row.form
  kind : other.kind = row.kind
  continued : other.continued = row.continued
  mergeable : other.mergeable = row.mergeable
  expectedInput : other.expected.input = row.expected.input
  actualInput : other.actual.input = row.actual.input
  actualOutput : other.actual.output = row.actual.output
  complement : row.kind.isBoolean = true → ∃ wanted, row.expected.output = .value (.bool wanted) ∧
    other.expected.output = .value (.bool !wanted)
  unchanged : row.kind.isBoolean = false → other.expected.output = row.expected.output

section Rows

variable {settings : Settings} {row other : Row}

/-- Twins under opposite polarities expect opposite answers. -/
theorem Row.Twins.turned (twins : Row.Twins settings settings true row other) (level : Nat) :
    (row.atLevel level).Turned (other.atLevel (level + 1)) := by
  obtain ⟨draft, flipped, attempt, further, outcome, -, rfl, rfl⟩ := twins
  rw [Bool.bne_true]
  refine ⟨rfl, rfl, rfl, rfl, rfl, rfl, rfl, ?_, ?_, ?_⟩
  · change Cell.ofResult further.outcome.result = Cell.ofResult attempt.outcome.result
    rw [outcome]
  · intro boolean
    exact ⟨!flipped, Draft.expected_row_of_boolean boolean, Draft.expected_row_of_boolean boolean⟩
  · intro valued
    have plain : draft.kind.isBoolean = false := valued
    change (draft.row settings (!flipped) further).expected.output =
      (draft.row settings flipped attempt).expected.output
    rw [Draft.expected_row_of_valued plain, Draft.expected_row_of_valued plain, outcome]

/-- Forests that mirror each other under opposite polarities list turned rows. -/
theorem Forest.Mirrors.turned {forest otherForest : Forest}
    (mirrors : forest.Mirrors (Row.Twins settings settings true) otherForest) (level : Nat) :
    List.Forall₂ Row.Turned (forest.rows level) (otherForest.rows (level + 1)) := by
  refine (mirrors.forall₂_rows level 1).imp ?_
  rintro row other ⟨carried, twin, shownAt, twins, rfl, rfl⟩
  exact twins.turned shownAt

/-- The account of a negation leaves its row, the same under all settings, and those inside. -/
theorem Account.rows_negation (flipped : Bool) (input : Option Value) (target : Tree)
    (outcome : Outcome Value) (inner : Forest) (level : Nat) :
    (Account.within settings flipped (Tree.draft input (.negation target)) { outcome }
      inner).forest.rows level =
      .ofNegation level flipped input outcome :: inner.rows (level + 1) := by
  rw [within, Draft.row, ite_self]
  exact congrArg (List.cons _) (List.append_nil _)

end Rows

/-- An outcome has an answer in it, or none, unless a value is returned that is no answer. -/
theorem Outcome.exists_answer {outcome : Outcome Value} (form : String)
    (answers : ∀ value, outcome.result = .returned value → ∃ answer, value = .bool answer) :
    ∃ answer, outcome.answer? form = .ok answer := by
  rw [answer?]
  cases returned : outcome.result with
  | returned value =>
      obtain ⟨answer, rfl⟩ := answers value returned
      exact ⟨some answer, rfl⟩
  | thrown failure => exact ⟨none, rfl⟩
  | skipped => exact ⟨none, rfl⟩

theorem Outcome.answer?_of_other {outcome : Outcome Value} {value : Value} (form : String)
    (returned : outcome.result = .returned value) (other : ∀ answer, value ≠ .bool answer) :
    outcome.answer? form = .error (.notBoolean form value.typeName) := by
  rw [answer?, returned]
  cases value with
  | bool answer => exact absurd rfl (other answer)
  | _ => rfl

section Answers

variable {outcome : Outcome Value} {form : String} {answer : Option Bool}

/-- An answer was returned; and if there is none, nothing was returned that could be one. -/
theorem Outcome.cases_of_answer? (answered : outcome.answer? form = .ok answer) :
    (∃ given, answer = some given ∧ outcome.result = .returned (.bool given)) ∨
      answer = none ∧ outcome.result.opposite = outcome.result ∧
        ∀ other, outcome.answer? other = .ok none := by
  obtain ⟨result, origin⟩ := outcome
  cases result with
  | returned value =>
      cases value with
      | bool given =>
          cases answered
          exact Or.inl ⟨given, rfl, rfl⟩
      | _ => cases answered
  | _ =>
      cases answered
      exact Or.inr ⟨rfl, rfl, fun _ => rfl⟩

theorem Outcome.result_negated (answered : outcome.answer? form = .ok answer) :
    (outcome.negated answer).result = outcome.result.opposite := by
  rcases cases_of_answer? answered with ⟨given, rfl, returned⟩ | ⟨rfl, same, -⟩
  · rw [returned]
    rfl
  · exact same.symm

/-- A negation has an answer if its target has one. -/
theorem Outcome.answer?_negated (answered : outcome.answer? form = .ok answer) (other : String) :
    (outcome.negated answer).answer? other = .ok (answer.map not) := by
  rcases cases_of_answer? answered with ⟨given, rfl, -⟩ | ⟨rfl, -, unanswered⟩
  · rfl
  · exact unanswered other

end Answers

namespace Tree

section Accounts

variable {settings : Settings} {tree : Tree} {flipped : Bool} {input : Option Value}
  {inner : Account} {answer : Option Bool}

theorem account_turned (settings : Settings) (tree : Tree) (flipped : Bool)
    (input : Option Value) :
    Alike (Account.Mirrors (Row.Twins settings settings true))
      (tree.account settings flipped input) (tree.account settings (!flipped) input) := by
  rw [← Bool.bne_true]
  exact tree.account_alike flipped input

theorem account_negation (given : tree.account settings (!flipped) input = .ok inner)
    (answered : inner.outcome.answer? tree.form = .ok answer) :
    (negation tree).account settings flipped input =
      .ok (.within settings flipped (draft input (.negation tree))
        { outcome := inner.outcome.negated answer } inner.forest) := by
  rw [account, given]
  simp only [bind, Except.bind, answered]
  rfl

theorem account_negation_of_fault {fault : Fault}
    (failed : tree.account settings (!flipped) input = .error fault) :
    (negation tree).account settings flipped input = .error fault := by
  rw [account, failed]
  rfl

theorem account_negation_of_refusal {fault : Fault}
    (given : tree.account settings (!flipped) input = .ok inner)
    (refused : inner.outcome.answer? tree.form = .error fault) :
    (negation tree).account settings flipped input = .error fault := by
  rw [account, given]
  simp only [bind, Except.bind, refused]

/-- A negation that can be evaluated has asked its target for an answer. -/
theorem exists_of_account_negation {whole : Account}
    (given : (negation tree).account settings flipped input = .ok whole) :
    ∃ inner outcome, tree.account settings (!flipped) input = .ok inner ∧
      outcome.result = inner.outcome.result.opposite ∧
      whole = .within settings flipped (draft input (.negation tree)) { outcome }
        inner.forest := by
  rw [account] at given
  obtain ⟨inner, turned, run⟩ := ok_of_bind given
  obtain ⟨answer, answered, closed⟩ := ok_of_bind run
  cases closed
  exact ⟨inner, inner.outcome.negated answer, turned, Outcome.result_negated answered, rfl⟩

/-- A double negation of a target that comes to no other value gives what the target gives. -/
theorem account_negation_negation (given : tree.account settings flipped input = .ok inner)
    (answered : inner.outcome.answer? tree.form = .ok answer) :
    ∃ outer middle, outer.result = inner.outcome.result ∧
      middle.result = inner.outcome.result.opposite ∧
      (negation (negation tree)).account settings flipped input =
        .ok (.within settings flipped (draft input (.negation (negation tree))) { outcome := outer }
          (Account.within settings (!flipped) (draft input (.negation tree)) { outcome := middle }
            inner.forest).forest) := by
  have inside : tree.account settings (!!flipped) input = .ok inner := by rwa [Bool.not_not]
  have once := Outcome.result_negated answered
  have again := Outcome.answer?_negated answered (negation tree).form
  have twice := Outcome.result_negated again
  rw [once, Result.opposite_opposite] at twice
  exact ⟨_, _, twice, once, account_negation (account_negation inside answered) again⟩

end Accounts

/-- If a negation can be evaluated, so can its target on its own.  The negation comes to the
opposite and appends its row and the rows of the target one level further in, with the opposite
answers expected.  A double negation of a target that comes to an answer, a failure or nothing comes
to the same, and appends two rows and those of the target, which are the same but for two more
levels.  If the target returns a value that is no answer, a negation and a double negation are
refused in its name. -/
theorem eval_negation (tree : Tree) (input : Option Value) (recorder : Recorder) :
    (∀ outcome after, (negation tree).eval input recorder = .ok outcome after →
      ∃ inner left rows others, tree.eval input recorder = .ok inner left ∧
        outcome.result = inner.result.opposite ∧ recorder.Appends left rows ∧
        recorder.Appends after
          (.ofNegation recorder.level recorder.flipped input outcome :: others) ∧
        List.Forall₂ Row.Turned rows others) ∧
    ∀ inner left, tree.eval input recorder = .ok inner left →
      ((∀ value, inner.result = .returned value → ∃ answer, value = .bool answer) →
        ∃ outer middle after rows, (negation (negation tree)).eval input recorder =
            .ok outer after ∧
          outer.result = inner.result ∧ middle.result = inner.result.opposite ∧
          recorder.Appends left rows ∧
          recorder.Appends after (.ofNegation recorder.level recorder.flipped input outer ::
            .ofNegation (recorder.level + 1) (!recorder.flipped) input middle ::
            rows.map (Row.deepen 2))) ∧
      ∀ value, inner.result = .returned value → (∀ answer, value ≠ .bool answer) →
        (∃ after, (negation tree).eval input recorder =
          .error (.notBoolean tree.form value.typeName) after) ∧
        ∃ after, (negation (negation tree)).eval input recorder =
          .error (.notBoolean tree.form value.typeName) after := by
  have alike := tree.account_turned recorder.settings recorder.flipped input
  constructor
  · intro outcome after run
    obtain ⟨whole, given, rfl, rfl⟩ := account_of_eval_ok run
    obtain ⟨inner, outcome, turned, opposite, rfl⟩ := exists_of_account_negation given
    rw [turned] at alike
    generalize plain : tree.account recorder.settings recorder.flipped input = result at alike
    cases alike with
    | ok mirrors =>
        rw [← mirrors.outcome] at opposite
        refine ⟨_, _, _, _, eval_of_account_ok plain, opposite, recorder.appends_extend _, ?_,
          mirrors.forest.turned recorder.level⟩
        rw [← Account.rows_negation]
        exact recorder.appends_extend _
  · intro inner left run
    obtain ⟨account, given, rfl, rfl⟩ := account_of_eval_ok run
    constructor
    · intro answers
      obtain ⟨answer, answered⟩ := Outcome.exists_answer tree.form answers
      obtain ⟨outer, middle, same, opposite, closed⟩ := account_negation_negation given answered
      refine ⟨outer, middle, _, _, eval_of_account_ok closed, same, opposite,
        recorder.appends_extend _, ?_⟩
      rw [Forest.map_deepen_rows, ← Account.rows_negation, ← Account.rows_negation]
      exact recorder.appends_extend _
    · intro value returned other
      rw [given] at alike
      generalize turned : tree.account recorder.settings (!recorder.flipped) input = result at alike
      cases alike with
      | ok mirrors =>
          have once := account_negation_of_refusal turned
            (Outcome.answer?_of_other tree.form (mirrors.outcome ▸ returned) other)
          have inside := account_negation_of_refusal (by rwa [Bool.not_not])
            (Outcome.answer?_of_other tree.form returned other)
          have twice := account_negation_of_fault inside
          obtain ⟨-, after, aborted, -⟩ := eval_of_account_error once
          obtain ⟨-, last, alsoAborted, -⟩ := eval_of_account_error twice
          exact ⟨⟨after, aborted⟩, last, alsoAborted⟩

end Tree

end Rationale
