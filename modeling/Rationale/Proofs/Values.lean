/-
Module: Rationale.Proofs.Values
Purpose: Which rows of an evaluation expect the value that they show.
Main exports: Row.Expects, Tree.wrapped, Tree.WrapsAnswers, Tree.Opens, Tree.Evaluates.answers,
  Tree.Closes, Tree.Evaluates.closes, Tree.evaluate_expects, Tree.StraysInPassing
-/
import Rationale.Check.Stock
import Rationale.Mapping.Stock
import Rationale.Proofs.Origins
import Rationale.Proofs.Typing

namespace Rationale

/-- The row expects the value that it shows, so it does not diverge, and it is left out of reports
if and only if it was opened as trivial. -/
structure Row.Expects (row : Row) (draft : Draft) (value : Value) : Prop where
  expected : row.expected.output = .value value
  agrees : row.isMismatch = false
  ignored : row.ignored = draft.isTrivial

/-- The row diverges and stands in reports, even if it was opened as trivial. -/
structure Row.Strays (row : Row) : Prop where
  diverges : row.isMismatch = true
  reported : row.ignored = false

theorem Row.Expects.atLevel {row : Row} {draft : Draft} {value : Value}
    (expects : row.Expects draft value) (level : Nat) : (row.atLevel level).Expects draft value :=
  ⟨expects.expected, expects.agrees, expects.ignored⟩

theorem Row.Strays.atLevel {row : Row} (strays : row.Strays) (level : Nat) :
    (row.atLevel level).Strays :=
  ⟨strays.diverges, strays.reported⟩

theorem Kind.isBoolean_of_wraps {kind : Kind} (wraps : kind = .curried ∨ kind = .check) :
    kind.isBoolean = true := by
  rcases wraps with rfl | rfl
  · rfl
  · rfl

namespace Tree

/-- The trees directly below the topmost part whose result is shown once more by a row that expects
an answer: what is asked of a slot, and the checker of a transformation with a row of its own. -/
def wrapped : Tree → List Tree
  | .transform mapper checker => if mapper.isIdentity then [] else [checker]
  | .curried enclosed _ => [enclosed]
  | _ => []

/-- Every part that is wrapped in a row that expects an answer can return nothing else. -/
def WrapsAnswers (tree : Tree) : Prop :=
  tree.Everywhere fun part => ∀ inner ∈ part.wrapped, inner.answers

/-- What is known of a row when a part of the tree opens it. -/
inductive Opens (tree : Tree) : Draft → Prop where
  | part {part : Tree} {input : Option Value} (contained : tree.Contains part) :
      Opens tree (part.draft input)
  | check {mapper checker : Tree} {input : Option Value}
      (contained : tree.Contains (.transform mapper checker)) : Opens tree (checkDraft input)

end Tree

/-!
### Rows that show a value

Whether a row expects an answer is settled when it is opened.  A row that does not takes the value
that comes for the expected one; one that does cannot agree with anything but an answer.
-/

theorem Cell.beq_self (cell : Cell) : (cell == cell) = true :=
  cell.same_refl

theorem Cell.answer_beq_value {value : Value} (noAnswer : ∀ answer, value ≠ .bool answer)
    (wanted : Bool) : (Cell.value (.bool wanted) == Cell.value value) = false := by
  change (Value.bool wanted).same value = false
  cases value with
  | bool answer => exact absurd rfl (noAnswer answer)
  | _ => rfl

theorem Result.Answers.eq_bool {value : Value} (answers : (Result.returned value).Answers) :
    ∃ answer, value = .bool answer := by
  obtain ⟨answer, answered⟩ := answers ""
  cases value with
  | bool answer => exact ⟨answer, rfl⟩
  | _ => cases answered

section Rows

variable {settings : Settings} {flipped : Bool} {draft : Draft} {attempt : Attempt} {value : Value}

theorem Draft.row_expects (valued : draft.kind.isBoolean = false)
    (returned : attempt.outcome.result = .returned value) :
    (draft.row settings flipped attempt).Expects draft value := by
  have expected : (draft.row settings flipped attempt).expected.output = .value value := by
    rw [expected_row_of_valued valued, returned]
    rfl
  have agrees : (draft.row settings flipped attempt).isMismatch = false := by
    rw [Row.isMismatch, expected, actual_row, returned, Cell.ofResult, bne, Cell.beq_self]
    rfl
  refine ⟨expected, agrees, ?_⟩
  simp [ignored_row, agrees, Outcome.isThrown, Outcome.failure?, returned]

theorem Draft.row_strays (boolean : draft.kind.isBoolean = true)
    (returned : attempt.outcome.result = .returned value)
    (noAnswer : ∀ answer, value ≠ .bool answer) :
    (draft.row settings flipped attempt).Strays := by
  have diverges : (draft.row settings flipped attempt).isMismatch = true := by
    rw [Row.isMismatch, expected_row_of_boolean boolean, actual_row, returned, Cell.ofResult, bne,
      Cell.answer_beq_value noAnswer]
    rfl
  refine ⟨diverges, ?_⟩
  rw [ignored_row, diverges, Bool.not_true, Bool.and_false]

end Rows

/-!
### Answers

A part that answers by its shape comes to nothing but an answer, also where its input was never
produced.
-/

theorem Check.answers_ask (check : Check) (wanted : Bool) (input : Option Value) :
    (check.ask wanted input).outcome.result.Answers := by
  cases input with
  | none => exact Result.answers_skipped
  | some value =>
      rw [ask]
      cases check.test value with
      | ok answer => exact Result.answers_bool answer
      | error failure => exact Result.answers_thrown failure

theorem Outcome.answers_ofAnswer (answer : Option Bool) :
    (Outcome.ofAnswer answer).result.Answers := by
  cases answer with
  | none => exact Result.answers_skipped
  | some answer => exact Result.answers_bool answer

theorem Outcome.answers_of_unanswered {form : String} {outcome : Outcome Value}
    (unanswered : outcome.answer? form = .ok none) : outcome.result.Answers := by
  rw [answer?_eq_result] at unanswered
  exact .of_none unanswered

theorem Outcome.answers_negated {form : String} {outcome : Outcome Value} {answer : Option Bool}
    (answered : outcome.answer? form = .ok answer) : (outcome.negated answer).result.Answers := by
  cases answer with
  | none => exact answers_of_unanswered answered
  | some answer => exact Result.answers_bool (!answer)

theorem answers_searchOutcome {α : Type} {visits : List (Visit α)} {cutOn default : Bool}
    {form : String}
    (answered : ∀ visit ∈ visits, visit.account.outcome.answer? form = .ok visit.answer) :
    (searchOutcome cutOn default visits).result.Answers := by
  by_cases unvisited : visits = []
  · rw [unvisited]
    exact Result.answers_bool default
  · obtain ⟨visit, member, decides⟩ := searchOutcome_eq cutOn default unvisited
    have here := answered visit member
    rw [decides]
    cases answer : visit.answer with
    | none =>
        rw [answer] at here
        exact Outcome.answers_of_unanswered here
    | some answer => exact Result.answers_bool _

/-- A stage that stopped came to no value, and otherwise the last stage decides. -/
theorem Account.answers_andThen {first last : Account} (answers : last.outcome.result.Answers) :
    (first.andThen last).outcome.result.Answers := by
  cases produced : first.outcome.value? with
  | some next =>
      rw [outcome_andThen_of_some last produced]
      exact answers
  | none =>
      rw [outcome_andThen_of_none last produced]
      cases result : first.outcome.result with
      | returned value =>
          rw [Outcome.value?_of_returned result] at produced
          cases produced
      | thrown failure => exact Result.answers_thrown failure
      | skipped => exact Result.answers_skipped

theorem Outcome.answers_of_given {input : Option Value} {outcome : Outcome Value}
    (answers : outcome.result.Answers) :
    (if input.isSome then outcome else .skipped).result.Answers := by
  cases input with
  | none => exact Result.answers_skipped
  | some value => exact answers

namespace Tree

/-- A part that answers by its shape comes to an answer, a failure or a skip. -/
theorem Evaluates.answers {settings : Settings} {tree : Tree} {flipped : Bool}
    {input : Option Value} {account : Account}
    (evaluates : Evaluates settings tree flipped input account)
    (answering : tree.answers = true) : account.outcome.result.Answers := by
  induction evaluates with
  | leaf => exact Check.answers_ask _ _ _
  | junction => exact Outcome.answers_ofAnswer _
  | negation _ answered _ => exact Outcome.answers_negated answered
  | function => cases answering
  | chain _ _ ih => exact Account.answers_andThen (ih answering)
  | identity _ _ ih => exact ih answering
  | transform _ _ _ _ _ checked =>
      apply Account.answers_andThen
      exact Outcome.answers_of_given (checked answering)
  | quantifierSkipped => exact Result.answers_skipped
  | quantifierRefused => exact Result.answers_thrown _
  | quantifier _ _ _ _ answered _ => exact answers_searchOutcome answered
  | curriedSkipped _ ih => exact ih answering
  | curriedRefused => exact Result.answers_thrown _
  | curried _ _ ih => exact ih answering

/-!
### Rows of an evaluation

A row expects no answer, or comes to one, or stands around a part that need not answer.
-/

/-- How a row of an evaluation is closed. -/
inductive Closes (settings : Settings) (tree : Tree) : Row → Prop where
  | valued {draft : Draft} {flipped : Bool} {attempt : Attempt} (opens : tree.Opens draft)
      (valued : draft.kind.isBoolean = false) :
      Closes settings tree (draft.row settings flipped attempt)
  | answered {draft : Draft} {flipped : Bool} {attempt : Attempt} (opens : tree.Opens draft)
      (boolean : draft.kind.isBoolean = true) (answers : attempt.outcome.result.Answers) :
      Closes settings tree (draft.row settings flipped attempt)
  | wrapping {draft : Draft} {flipped : Bool} {attempt : Attempt} (opens : tree.Opens draft)
      (wraps : draft.kind = .curried ∨ draft.kind = .check) (strays : ¬ tree.WrapsAnswers) :
      Closes settings tree (draft.row settings flipped attempt)

theorem WrapsAnswers.part {tree part : Tree} (whole : tree.WrapsAnswers)
    (member : part ∈ tree.parts) : part.WrapsAnswers :=
  (everywhere_iff.mp whole).2 part member

section Parts

variable {settings : Settings} {tree part : Tree} {row : Row} {draft : Draft}

theorem Opens.of_part (opens : part.Opens draft) (member : part ∈ tree.parts) :
    tree.Opens draft := by
  cases opens with
  | part contained => exact .part (.within member contained)
  | check contained => exact .check (.within member contained)

theorem Closes.of_part (closes : Closes settings part row) (member : part ∈ tree.parts) :
    Closes settings tree row := by
  cases closes with
  | valued opens valued => exact .valued (opens.of_part member) valued
  | answered opens boolean answers => exact .answered (opens.of_part member) boolean answers
  | wrapping opens wraps strays =>
      exact .wrapping (opens.of_part member) wraps fun whole => strays (whole.part member)

theorem closes_of_part {forest : Forest}
    (inside : forest.Everywhere fun row _ => Closes settings part row)
    (member : part ∈ tree.parts) : forest.Everywhere fun row _ => Closes settings tree row :=
  inside.mono fun _ _ closes => closes.of_part member

/-- A row around a part that it takes its answer from. -/
theorem Closes.of_wrapped {flipped : Bool} {attempt : Attempt} (opens : tree.Opens draft)
    (wraps : draft.kind = .curried ∨ draft.kind = .check) (member : part ∈ tree.wrapped)
    (answers : part.answers = true → attempt.outcome.result.Answers) :
    Closes settings tree (draft.row settings flipped attempt) := by
  by_cases answering : part.answers = true
  · exact .answered opens (Kind.isBoolean_of_wraps wraps) (answers answering)
  · exact .wrapping opens wraps fun whole => answering (whole tree .self part member)

end Parts

/-- Every row of an evaluation is closed in one of the ways. -/
theorem Evaluates.closes {settings : Settings} {tree : Tree} {flipped : Bool}
    {input : Option Value} {account : Account}
    (evaluates : Evaluates settings tree flipped input account) :
    account.forest.Everywhere fun row _ => Closes settings tree row := by
  induction evaluates with
  | leaf => exact .node (.answered (.part .self) rfl (Check.answers_ask _ _ _)) trivial
  | @junction connective lazily flipped operands input visits inOrder asked evaluated _ ih =>
      refine .node (.answered (.part .self) ?_ (Outcome.answers_ofAnswer _)) ?_
      · cases connective <;> rfl
      · refine .of_visits fun visit member => ?_
        have operand : visit.subject ∈ operands := inOrder.subset (List.mem_map_of_mem member)
        exact closes_of_part (ih visit member) operand
  | negation _ answered ih =>
      refine .node (.answered (.part .self) rfl (Outcome.answers_negated answered)) ?_
      exact closes_of_part ih (by simp [parts])
  | function => exact .node (.valued (.part .self) rfl) trivial
  | chain headed _ ih =>
      refine .append ?_ (closes_of_part ih (by simp [parts]))
      rw [headed]
      exact .node (.valued (.part .self) rfl) trivial
  | identity _ _ ih => exact closes_of_part ih (by simp [parts])
  | transform distinct _ staged checked mapperIH checkerIH =>
      refine .append ?_ (.node ?_ (closes_of_part checkerIH (by simp [parts])))
      · rw [staged]
        exact .node (.valued (.part .self) rfl) (closes_of_part mapperIH (by simp [parts]))
      · apply Closes.of_wrapped (.check .self) (Or.inr rfl)
        · rw [wrapped, distinct]
          exact List.mem_singleton_self _
        · exact fun answering => Outcome.answers_of_given (checked.answers answering)
  | quantifierSkipped _ ih =>
      refine .node (.answered (.part .self) rfl Result.answers_skipped) ?_
      exact closes_of_part ih (by simp [parts])
  | quantifierRefused =>
      exact .node (.answered (.part .self) rfl (Result.answers_thrown _)) trivial
  | quantifier _ _ _ _ answered ih =>
      refine .node (.answered (.part .self) rfl (answers_searchOutcome answered)) ?_
      refine .of_visits fun visit member => ?_
      exact closes_of_part (ih visit member) (by simp [parts])
  | curriedSkipped evaluated ih =>
      refine .node ?_ (closes_of_part ih (by simp [parts]))
      exact .of_wrapped (.part .self) (Or.inl rfl) (List.mem_singleton_self _) evaluated.answers
  | curriedRefused =>
      exact .node (.answered (.part .self) rfl (Result.answers_thrown _)) trivial
  | curried _ evaluated ih =>
      refine .node ?_ (closes_of_part ih (by simp [parts]))
      exact .of_wrapped (.part .self) (Or.inl rfl) (List.mem_singleton_self _) evaluated.answers

/-- A row that shows a value which is no answer expects that value, unless it is of a kind that
stands around another part and expects an answer of it: then the row diverges, and the tree wraps a
part that need not answer.  In a tree that wraps nothing but answers every such row expects the
value that it shows. -/
theorem evaluate_expects {settings : Settings} {tree : Tree} {input : Value}
    {evaluation : Evaluation} (evaluated : tree.evaluate settings input = .ok evaluation) :
    ∀ row ∈ evaluation.trace, ∀ value, row.actual.output = .value value →
      (∀ answer, value ≠ .bool answer) →
      ∃ (draft : Draft) (flipped : Bool) (attempt : Attempt), tree.Opens draft ∧
        row = (draft.row settings flipped attempt).atLevel row.level ∧
        (if row.kind = .curried ∨ row.kind = .check then row.Strays ∧ ¬ tree.WrapsAnswers
          else row.Expects draft value) ∧
        (tree.WrapsAnswers → row.Expects draft value) := by
  obtain ⟨account, evaluates, rfl⟩ := evaluate_ok evaluated
  intro row member value shown noAnswer
  obtain ⟨carried, shownAt, _, rfl, closes⟩ := evaluates.closes.of_mem_rows member
  cases closes with
  | @valued draft flipped attempt opens valued =>
      have expects : (draft.row settings flipped attempt).Expects draft value :=
        Draft.row_expects valued (Cell.ofResult_eq_value_iff.mp shown)
      have free : ¬ (draft.kind = .curried ∨ draft.kind = .check) := by
        intro wraps
        rw [Kind.isBoolean_of_wraps wraps] at valued
        cases valued
      refine ⟨draft, flipped, attempt, opens, rfl, ?_, fun _ => expects.atLevel shownAt⟩
      split
      case isTrue wraps => exact absurd wraps free
      case isFalse => exact expects.atLevel shownAt
  | @answered draft flipped attempt opens boolean answers =>
      rw [Cell.ofResult_eq_value_iff.mp shown] at answers
      obtain ⟨answer, isAnswer⟩ := answers.eq_bool
      exact absurd isAnswer (noAnswer answer)
  | @wrapping draft flipped attempt opens wraps unanswering =>
      have boolean : draft.kind.isBoolean = true := Kind.isBoolean_of_wraps wraps
      have strays : (draft.row settings flipped attempt).Strays :=
        Draft.row_strays boolean (Cell.ofResult_eq_value_iff.mp shown) noAnswer
      refine ⟨draft, flipped, attempt, opens, rfl, ?_, fun whole => absurd whole unanswering⟩
      split
      case isTrue => exact ⟨strays.atLevel shownAt, unanswering⟩
      case isFalse free => exact absurd wraps free

/-- The length that a mapping stage hands on is expected in its row and in that of the mapping
inside it, which stays out of reports if it was marked as trivial. -/
theorem evaluate_expects_length :
    let stages := transform (.function Mapping.length.markedTrivial) (.leaf .isNotNull)
    ∃ evaluation, stages.evaluate {} (.text "abc") = .ok evaluation ∧
      (∃ row ∈ evaluation.trace, row.kind = .transform ∧ row.expected.output = .value (.int 3)) ∧
      ∃ row ∈ evaluation.trace, row.kind = .function ∧ row.ignored = true ∧
        ∃ draft, stages.Opens draft ∧ row.Expects draft (.int 3) := by
  intro stages
  obtain ⟨evaluation, stage, mapping, last, evaluated, trace, isStage, isMapping, staged, mapped,
      trivial⟩ : ∃ evaluation stage mapping last,
        stages.evaluate {} (.text "abc") = .ok evaluation ∧
        evaluation.trace = stage :: mapping :: last ∧ stage.kind = .transform ∧
        mapping.kind = .function ∧ stage.actual.output = .value (.int 3) ∧
        mapping.actual.output = .value (.int 3) ∧ mapping.ignored = true :=
    ⟨_, _, _, _, rfl, rfl, rfl, rfl, rfl, rfl, rfl⟩
  have noAnswer : ∀ answer, Value.int 3 ≠ .bool answer := fun _ => Value.noConfusion
  refine ⟨evaluation, evaluated, ⟨stage, ?_, isStage, ?_⟩, mapping, ?_, isMapping, trivial, ?_⟩
  · simp [trace]
  · obtain ⟨draft, -, -, -, -, expects, -⟩ :=
      evaluate_expects evaluated stage (by simp [trace]) (.int 3) staged noAnswer
    rw [if_neg (by simp [isStage])] at expects
    exact expects.expected
  · simp [trace]
  · obtain ⟨draft, -, -, opens, -, expects, -⟩ :=
      evaluate_expects evaluated mapping (by simp [trace]) (.int 3) mapped noAnswer
    rw [if_neg (by simp [isMapping])] at expects
    exact ⟨draft, opens, expects⟩

/-- The tree passes on the input, and yet a row of the name that shows no answer strays. -/
def StraysInPassing (tree : Tree) (input : Value) (form : String) : Prop :=
  ∃ evaluation row value, tree.evaluate {} input = .ok evaluation ∧ evaluation.passed = true ∧
    row ∈ evaluation.trace ∧ row.form = form ∧ row.actual.output = .value value ∧
    (∀ answer, value ≠ .bool answer) ∧ row.Strays

/-- In the mapper of a tree that passes, a look at a slot hands on a length and a checking stage a
text, and either row expects `true`. -/
theorem evaluate_strays :
    StraysInPassing (transform (.curried (.function .length) 0) (.leaf .isNotNull))
        (.context [.text "abc"]) "curry[0]" ∧
      StraysInPassing
        (transform (.transform (.function .length) (.function .stringify)) (.leaf .isNotNull))
        (.text "abc") "check" := by
  constructor
  · refine ⟨_, _, .int 3, rfl, rfl, List.mem_of_getElem? (i := 1) rfl, rfl, rfl, ?_, rfl, rfl⟩
    exact fun _ => Value.noConfusion
  · refine ⟨_, _, .text "3", rfl, rfl, List.mem_of_getElem? (i := 3) rfl, rfl, rfl, ?_, rfl, rfl⟩
    exact fun _ => Value.noConfusion

end Tree

end Rationale
