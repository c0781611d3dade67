/-
Module: Rationale.Proofs.Deciding
Purpose: Of the rows side by side that a part leaves, the last one that was reached shows what the
  part came to.
Main exports: Trace.deciding?, Forest.deciding?, Tree.Evaluates.decides, Tree.evaluate_decided
-/
import Rationale.Mapping.Stock
import Rationale.Proofs.Preorder
import Rationale.Proofs.Skipping

namespace Rationale

/-- The last row at a level whose input was produced. -/
def Trace.deciding? (level : Nat) (rows : List Row) : Option Row :=
  (rows.filter fun row => row.level == level && row.isReached).getLast?

namespace Forest

/-- The last of the rows side by side whose input was produced. -/
def deciding? (forest : Forest) : Option Row :=
  (forest.tops.filter Row.isReached).getLast?

theorem deciding?_rows (level : Nat) (forest : Forest) :
    Trace.deciding? level (forest.rows level) = forest.deciding?.map (Row.atLevel level) := by
  have reached : (fun row : Row => row.isReached) ∘ Row.atLevel level = Row.isReached := rfl
  rw [Trace.deciding?, deciding?, ← List.getLast?_map]
  congr 1
  calc (forest.rows level).filter (fun row => row.level == level && row.isReached)
      = ((forest.rows level).filter fun row => row.level == level).filter Row.isReached := by
        rw [List.filter_filter]
        simp only [Bool.and_comm]
    _ = (forest.tops.map (Row.atLevel level)).filter Row.isReached := by
        rw [filter_level_rows]
    _ = (forest.tops.filter Row.isReached).map (Row.atLevel level) := by
        rw [List.filter_map, reached]

theorem deciding?_append (first second : Forest) :
    (first ++ second).deciding? = second.deciding?.or first.deciding? := by
  rw [deciding?, tops_append, List.filter_append, List.getLast?_append]
  rfl

theorem deciding?_of_unreached {forest : Forest} (unreached : forest.Everywhere Row.Unreached) :
    forest.deciding? = none := by
  induction forest with
  | nil => rfl
  | cons row inner rest _ ih =>
      obtain ⟨here, -, beside⟩ := unreached
      have passed : row.isReached = false := here
      rw [deciding?, tops, List.filter_cons, passed]
      exact ih beside

end Forest

/-!
### Stages

A row decides by itself what it stands for.  Of two stages the second decides if it was reached, and
otherwise the first.
-/

/-- The last row side by side that was reached shows the result. -/
def Account.IsDecided (account : Account) : Prop :=
  ∃ row, account.forest.deciding? = some row ∧
    row.actual.output = .ofResult account.outcome.result

namespace Account

variable {settings : Settings} {flipped : Bool} {draft : Draft} {attempt : Attempt}
  {inner : Forest} {first last : Account}

theorem isDecided_within (given : draft.input.isSome) :
    (Account.within settings flipped draft attempt inner).IsDecided := by
  refine ⟨draft.row settings flipped attempt, ?_, rfl⟩
  simp [Forest.deciding?, Account.within, given]

theorem isDecided_andThen_of_none (stopped : first.outcome.value? = none)
    (decided : first.IsDecided) (unreached : last.forest.Everywhere Row.Unreached) :
    (first.andThen last).IsDecided := by
  obtain ⟨row, found, shown⟩ := decided
  refine ⟨row, ?_, ?_⟩
  · rw [andThen, Forest.deciding?_append, Forest.deciding?_of_unreached unreached]
    exact found
  · rw [outcome_andThen_of_none last stopped]
    exact shown

theorem isDecided_andThen_of_some {next : Value} (produced : first.outcome.value? = some next)
    (decided : last.IsDecided) : (first.andThen last).IsDecided := by
  obtain ⟨row, found, shown⟩ := decided
  refine ⟨row, ?_, ?_⟩
  · rw [andThen, Forest.deciding?_append, found]
    rfl
  · rw [outcome_andThen_of_some last produced]
    exact shown

end Account

namespace Tree

theorem Evaluates.isDecided {settings : Settings} {tree : Tree} {flipped : Bool}
    {input : Option Value} {account : Account}
    (evaluates : Evaluates settings tree flipped input account) (given : input.isSome) :
    account.IsDecided := by
  -- By induction on the derivation.  Only chains and transformations leave several rows side by
  -- side: if the first stage gave nothing, the rows of the second were never reached.
  induction evaluates with
  | leaf => exact Account.isDecided_within given
  | junction => exact Account.isDecided_within given
  | negation => exact Account.isDecided_within given
  | function => exact Account.isDecided_within given
  | @chain head tail flipped input first last headed evaluated ih =>
      have here : first.IsDecided := by
        rw [headed]
        exact Account.isDecided_within given
      cases produced : first.outcome.value? with
      | none =>
          have unreached := (evaluated.skipped produced).2
          exact Account.isDecided_andThen_of_none produced here unreached
      | some next =>
          obtain ⟨row, found, shown⟩ := ih (by rw [produced]; rfl)
          exact Account.isDecided_andThen_of_some produced ⟨row, found, shown⟩
  | identity _ _ ih => exact ih given
  | @transform mapper checker flipped input mapping first checking _ _ staged checked _ _ =>
      cases produced : first.outcome.value? with
      | none =>
          have here : first.IsDecided := by
            rw [staged]
            exact Account.isDecided_within given
          have unreached := (checked.skipped produced).2
          exact Account.isDecided_andThen_of_none produced here
            (Account.unreached_within rfl unreached)
      | some next =>
          exact Account.isDecided_andThen_of_some produced (Account.isDecided_within rfl)
  | quantifierSkipped => cases given
  | quantifierRefused => exact Account.isDecided_within given
  | quantifier => exact Account.isDecided_within given
  | curriedSkipped => cases given
  | curriedRefused => exact Account.isDecided_within given
  | curried => exact Account.isDecided_within given

end Tree

/-!
### Verdicts

A row of a Boolean kind side by side with others expects the answer wanted of the part, so it is no
mismatch if and only if it shows that answer.
-/

theorem Forest.Polar.of_mem_tops {flipped : Bool} {forest : Forest} {row : Row}
    (polar : forest.Polar flipped) (member : row ∈ forest.tops) (boolean : row.kind.isBoolean) :
    row.expected.output = .value (.bool !flipped) := by
  induction forest with
  | nil => cases member
  | cons first inner rest _ ih =>
      obtain ⟨wanted, -, beside⟩ := polar
      rcases List.mem_cons.mp member with rfl | later
      · exact wanted boolean
      · exact ih beside later

theorem Cell.same_ofResult_iff {wanted : Bool} {result : Result Value} :
    (Cell.value (.bool wanted)).same (.ofResult result) = true ↔
      result = .returned (.bool wanted) := by
  cases result with
  | returned value =>
      cases value with
      | bool answer => cases answer <;> cases wanted <;> simp [Cell.same, Cell.ofResult, Value.same]
      | _ => simp [Cell.same, Cell.ofResult, Value.same]
  | thrown failure => simp [Cell.same, Cell.ofResult]
  | skipped => simp [Cell.same, Cell.ofResult]

theorem Row.isMismatch_eq_false_iff {row : Row} {wanted : Bool} {result : Result Value}
    (expected : row.expected.output = .value (.bool wanted))
    (actual : row.actual.output = .ofResult result) :
    row.isMismatch = false ↔ result = .returned (.bool wanted) := by
  have compared : row.isMismatch = !(Cell.value (.bool wanted)).same (.ofResult result) := by
    rw [isMismatch, expected, actual]
    rfl
  rw [compared, Bool.not_eq_false', Cell.same_ofResult_iff]

theorem Evaluation.passed_iff {evaluation : Evaluation} :
    evaluation.passed = true ↔ evaluation.outcome.result = .returned (.bool true) := by
  obtain ⟨⟨result, origin⟩, trace, journal⟩ := evaluation
  cases result with
  | returned value =>
      cases value with
      | bool answer => cases answer <;> simp [Evaluation.passed, Outcome.value?]
      | _ => simp [Evaluation.passed, Outcome.value?]
  | thrown failure => simp [Evaluation.passed, Outcome.value?]
  | skipped => simp [Evaluation.passed, Outcome.value?]

namespace Tree

/-- In the rows of a part, at whatever level, the deciding one shows the result of the part, and
whether the part came to the answer wanted of it. -/
theorem Evaluates.decides {settings : Settings} {tree : Tree} {flipped : Bool} {value : Value}
    {account : Account} (evaluates : Evaluates settings tree flipped (some value) account)
    (level : Nat) :
    ∃ row, Trace.deciding? level (account.forest.rows level) = some row ∧
      row.actual.output = .ofResult account.outcome.result ∧
        (row.kind.isBoolean = true →
          (account.outcome.result = .returned (.bool !flipped) ↔ row.isMismatch = false)) := by
  obtain ⟨row, found, shown⟩ := evaluates.isDecided rfl
  have member : row ∈ account.forest.tops := by
    have reached := List.mem_of_getLast? found
    exact (List.mem_filter.mp reached).1
  refine ⟨row.atLevel level, ?_, shown, ?_⟩
  · rw [Forest.deciding?_rows, found]
    rfl
  · intro boolean
    have expected := evaluates.polar.of_mem_tops member boolean
    have verdict := Row.isMismatch_eq_false_iff expected shown
    exact verdict.symm

/-- In the trace of an evaluation, the last row at the outermost level whose input was produced
shows the result of the evaluation; and if that row is of a Boolean kind, the evaluation passed if
and only if the row is no mismatch.  Alike for a part that is evaluated on a value in any recorder,
and the rows that it appends at the level of the recorder, where the answer wanted by the polarity
stands for passing. -/
theorem evaluate_decided :
    (∀ (settings : Settings) (tree : Tree) (input : Value) (evaluation : Evaluation),
      tree.evaluate settings input = .ok evaluation →
      ∃ row, Trace.deciding? 0 evaluation.trace = some row ∧
        row.actual.output = .ofResult evaluation.outcome.result ∧
          (row.kind.isBoolean = true → (evaluation.passed = true ↔ row.isMismatch = false))) ∧
    ∀ (tree : Tree) (value : Value) (recorder after : Recorder) (outcome : Outcome Value),
      tree.eval (some value) recorder = .ok outcome after →
      ∃ rows, recorder.Appends after rows ∧
        ∃ row, Trace.deciding? recorder.level rows = some row ∧
          row.actual.output = .ofResult outcome.result ∧
            (row.kind.isBoolean = true →
              (outcome.result = .returned (.bool recorder.wantedAnswer) ↔
                row.isMismatch = false)) := by
  constructor
  · intro settings tree input evaluation evaluated
    obtain ⟨account, evaluates, rfl⟩ := evaluate_ok evaluated
    obtain ⟨row, found, shown, verdict⟩ := evaluates.decides 0
    refine ⟨row, found, shown, fun boolean => ?_⟩
    rw [Evaluation.passed_iff]
    exact verdict boolean
  · intro tree value recorder after outcome run
    obtain ⟨account, given, rfl, rfl⟩ := account_of_eval_ok run
    have evaluates := evaluates_of_account given
    exact ⟨_, recorder.appends_extend account.forest, evaluates.decides recorder.level⟩

/-- A failed mapping stage passes nothing on, so its row decides and not that of the check. -/
theorem evaluate_decided_of_length :
    let stages := transform (.function .length) (.leaf .isNull)
    let flipped := Recorder.flip { settings := {} }
    (∃ evaluation row, stages.evaluate {} (.int 1) = .ok evaluation ∧
      Trace.deciding? 0 evaluation.trace = some row ∧ row.kind = .transform ∧
        row.actual.output = .ofResult evaluation.outcome.result) ∧
    ∃ outcome after rows row, stages.eval (some (.int 1)) flipped = .ok outcome after ∧
      flipped.Appends after rows ∧ Trace.deciding? 0 rows = some row ∧
        row.actual.output = .ofResult outcome.result := by
  intro stages flipped
  constructor
  · obtain ⟨evaluation, evaluated, found⟩ : ∃ evaluation, stages.evaluate {} (.int 1) =
      .ok evaluation ∧ (Trace.deciding? 0 evaluation.trace).map Row.kind = some .transform :=
        ⟨_, rfl, rfl⟩
    obtain ⟨row, decides, shown, -⟩ := evaluate_decided.1 {} stages (.int 1) evaluation evaluated
    rw [decides] at found
    exact ⟨evaluation, row, evaluated, decides, Option.some.inj found, shown⟩
  · obtain ⟨outcome, after, run⟩ : ∃ outcome after,
      stages.eval (some (.int 1)) flipped = .ok outcome after := ⟨_, _, rfl⟩
    obtain ⟨rows, appended, row, decides, shown, -⟩ :=
      evaluate_decided.2 stages (.int 1) flipped after outcome run
    exact ⟨outcome, after, rows, row, run, appended, decides, shown⟩

/-- Under the flipped polarity `true` is not the answer wanted, so a part that comes to it leaves a
mismatch. -/
theorem eval_flipped_of_isTrue :
    let flipped := Recorder.flip { settings := {} }
    ∃ after row, (leaf .isTrue).eval (some (.bool true)) flipped =
        .ok (.returned (.bool true)) after ∧
      flipped.Appends after [row] ∧ Trace.deciding? flipped.level [row] = some row ∧
        row.kind.isBoolean = true ∧ row.isMismatch = true :=
  ⟨_, _, rfl, rfl, rfl, rfl, rfl⟩

end Tree

end Rationale
