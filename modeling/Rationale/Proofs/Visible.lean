/-
Module: Rationale.Proofs.Visible
Purpose: An evaluation that does not pass shows in its report, unless what it came to looks like
  `true` there.
Main exports: Account.Tells, Tree.Evaluates.tells, Row.IsShowable, Result.LooksTrue,
  Tree.evaluate_visible
-/
import Rationale.Check.Stock
import Rationale.Mapping.Stock
import Rationale.Proofs.Clipping
import Rationale.Proofs.Columns
import Rationale.Proofs.Deciding
import Rationale.Proofs.Details
import Rationale.Proofs.Staging

namespace Rationale

/-!
### The verdict

Of the rows side by side that an answering part leaves, one expects the answer wanted of the part
and has the result of the part, unless it was skipped.
-/

/-- The outputs of a row tell a result where an answer was wanted. -/
def Cell.Tell (wanted : Bool) (result : Result Value) (expected actual : Cell) : Prop :=
  expected = .value (.bool wanted) ∧ (actual = .ofResult result ∨ actual = .skipped)

/-- Some row side by side tells what the part came to. -/
def Account.Tells (flipped : Bool) (account : Account) : Prop :=
  ∃ row ∈ account.forest.tops,
    Cell.Tell (!flipped) account.outcome.result row.expected.output row.actual.output

theorem Account.tells_within {settings : Settings} {flipped : Bool} {draft : Draft}
    {attempt : Attempt} {inner : Forest} (boolean : draft.kind.isBoolean = true) :
    (Account.within settings flipped draft attempt inner).Tells flipped := by
  exact ⟨_, List.mem_singleton_self _, Draft.expected_row_of_boolean boolean, .inl rfl⟩

/-- Of two stages the second tells for both, if it comes to nothing whenever the first stops. -/
theorem Account.tells_andThen {flipped : Bool} {first last : Account} (tells : last.Tells flipped)
    (stopped : first.outcome.value? = none → last.outcome.result = .skipped) :
    (first.andThen last).Tells flipped := by
  obtain ⟨row, member, expected, actual⟩ := tells
  have listed : row ∈ (first.andThen last).forest.tops := by
    rw [andThen, Forest.tops_append]
    exact List.mem_append_right _ member
  refine ⟨row, listed, expected, ?_⟩
  cases produced : first.outcome.value? with
  | none =>
      rw [stopped produced] at actual
      exact .inr (actual.elim id id)
  | some next =>
      rw [outcome_andThen_of_some last produced]
      exact actual

namespace Tree

theorem Evaluates.tells {settings : Settings} {tree : Tree} {flipped : Bool}
    {input : Option Value} {account : Account}
    (evaluates : Evaluates settings tree flipped input account) (answering : tree.answers = true) :
    account.Tells flipped := by
  induction evaluates with
  | @junction connective =>
      apply Account.tells_within
      cases connective <;> rfl
  | function => cases answering
  | chain _ evaluated ih =>
      exact Account.tells_andThen (ih answering) fun stopped => (evaluated.skipped stopped).1
  | identity _ _ ih => exact ih answering
  | transform =>
      refine Account.tells_andThen (Account.tells_within rfl) fun stopped => ?_
      simp [checkingStage, stopped, Account.within, Outcome.skipped]
  | _ => exact Account.tells_within rfl

end Tree

/-!
### Rows in a report

The two sides of a row have one input.  Where their outputs differ, an answer or no failure was
expected, and the text of that stands on a single line and has no white space at its end.
-/

/-- What a report relies on in the sides of a row. -/
structure Row.IsShowable (row : Row) : Prop where
  aligned : row.actual.input = row.expected.input
  plain : row.expected.output = row.actual.output ∨
    (∃ wanted, row.expected.output = .value (.bool wanted)) ∨ row.expected.output = .noFailure

theorem Draft.isShowable (settings : Settings) (flipped : Bool) (draft : Draft)
    (attempt : Attempt) : (draft.row settings flipped attempt).IsShowable := by
  refine ⟨rfl, ?_⟩
  simp only [Draft.row, PendingRow.close, Recorder.pendingRow]
  cases draft.kind.isBoolean with
  | true => exact .inr (.inl ⟨_, rfl⟩)
  | false =>
      cases attempt.outcome.result with
      | returned value => exact .inl rfl
      | thrown failure => exact .inr (.inr rfl)
      | skipped => exact .inl rfl

/-- A row of the merged trace has its inputs from one row and its outputs from another. -/
theorem isShowable_of_mem_mergeStages {trace : Trace} (showable : ∀ row ∈ trace, row.IsShowable)
    {row : Row} (member : row ∈ mergeStages trace) : row.IsShowable := by
  obtain ⟨run, isRun, rfl⟩ := Trace.exists_run member
  have each := fun row inside => showable row (Trace.mem_of_mem_members isRun inside)
  cases run with
  | single row => exact each row (by simp [Run.members])
  | merged stage content absorbs =>
      exact ⟨(each stage (by simp [Run.members])).aligned,
        (each content (by simp [Run.members])).plain⟩

/-- A row that has to be explained is no stage, so the merged trace shows its outputs in a row that
has to be explained. -/
theorem exists_explained {trace : Trace} (reportable : ∀ row ∈ trace, row.IsReportable)
    {row : Row} (member : row ∈ trace) (explained : row.requiresExplanation = true) :
    ∃ shown ∈ mergeStages trace, shown.requiresExplanation = true ∧ row.SharesOutputs shown := by
  rw [← Trace.flatMap_members_runs trace] at member
  obtain ⟨run, isRun, inside⟩ := List.mem_flatMap.mp member
  have listed := Trace.row_mem_mergeStages isRun
  have reports := reportable row (Trace.mem_of_mem_members isRun inside)
  cases run with
  | single other =>
      obtain rfl := List.mem_singleton.mp inside
      exact ⟨_, listed, explained, rfl, rfl⟩
  | merged stage content absorbs =>
      rcases List.mem_pair.mp inside with rfl | rfl
      · have silent := reports.silent (Row.mergeable_of_absorbs absorbs)
        rw [explained] at silent
        cases silent
      · refine ⟨_, listed, ?_, rfl, rfl⟩
        simp [Run.row, Row.absorb, explained]

/-- A row of the merged trace that diverges is shown. -/
theorem isShown_of_isMismatch {trace : Trace} (reportable : ∀ row ∈ trace, row.IsReportable)
    {settings : Settings} {row : Row} (member : row ∈ mergeStages trace)
    (mismatch : row.isMismatch = true) : Explanation.isShown settings row = true := by
  obtain ⟨run, isRun, rfl⟩ := Trace.exists_run member
  cases shown : Explanation.isShown settings run.row with
  | true => rfl
  | false =>
      have each := Explanation.agrees_of_not_isShown
        (fun row inside => reportable row (Trace.mem_of_mem_members isRun inside)) shown
      cases run with
      | single row =>
          have agrees := (each row (by simp [Run.members])).1
          rw [Run.row, agrees] at mismatch
          cases mismatch
      | merged stage content absorbs =>
          have agrees := (each content (by simp [Run.members])).1
          rw [Run.row, Row.isMismatch_absorb, agrees] at mismatch
          cases mismatch

/-!
### Texts

An answer is cut to an ellipsis by a limit of up to three characters, so that both answers look
alike there.
-/

theorem Cell.summarize_true (limit : Nat) :
    (Cell.value (.bool true)).summarize limit = if limit ≤ 3 then "..." else "true" := by
  change Text.clip limit "true" = _
  split_ifs with narrow
  · exact Text.clip_of_le_three narrow (Nat.lt_of_le_of_lt narrow (by decide))
  · exact if_pos (Nat.lt_of_not_le narrow)

theorem Cell.summarize_false (limit : Nat) :
    (Cell.value (.bool false)).summarize limit =
      if limit ≤ 3 then "..." else if limit = 4 then "f..." else "false" := by
  change Text.clip limit "false" = _
  split_ifs with narrow tight
  · exact Text.clip_of_le_three narrow (Nat.lt_of_le_of_lt narrow (by decide))
  · rw [tight]
    decide
  · refine if_pos ?_
    change 5 ≤ limit
    omega

/-- What is expected of a row whose outputs differ stands on a single line and has no white space at
its end. -/
theorem Row.IsShowable.text_of_ne {row : Row} (showable : row.IsShowable) (limit : Nat)
    (differ : row.expected.output ≠ row.actual.output) :
    '\n' ∉ (row.expected.output.summarize limit).toList ∧
      Text.trimEnd (row.expected.output.summarize limit) =
        row.expected.output.summarize limit := by
  rcases showable.plain with same | ⟨wanted, expected⟩ | expected
  · exact absurd same differ
  · rw [expected]
    cases wanted with
    | true =>
        rw [Cell.summarize_true]
        split_ifs <;> decide
    | false =>
        rw [Cell.summarize_false]
        split_ifs <;> decide
  · rw [expected, Cell.summarize]
    decide

/-!
### Visible rows
-/

/-- Some row that the explanation shows looks different in both accounts. -/
def Explanation.HasVisible (settings : Settings) (trace : Trace) : Prop :=
  ∃ row marker,
    (row, marker) ∈ Report.pairMarkers (shownRows settings trace)
      (numberFrom 0 (shownRows settings trace)) ∧
    Report.shownOutput settings.cellWidth Row.expected row marker ≠
      Report.shownOutput settings.cellWidth Row.actual row marker

section Explanations

variable {settings : Settings} {trace : Trace} {row : Row}

theorem Row.IsShowable.flat (showable : row.IsShowable) (limit : Nat) (marker : Option Nat) :
    Report.shownOutput limit Row.expected row marker =
        Report.shownOutput limit Row.actual row marker ∨
      '\n' ∉ Report.shownOutput limit Row.expected row marker := by
  by_cases same : row.expected.output = row.actual.output
  · left
    rw [Report.shownOutput, Report.shownOutput, same]
  · right
    exact Report.feed_not_mem_shownOutput (showable.text_of_ne limit same).1

/-- A row that looks different tells the two summaries apart, and their difference marks it. -/
theorem Explanation.HasVisible.differs (visible : HasVisible settings trace)
    (showable : ∀ row ∈ trace, row.IsShowable) (message : String) :
    let explanation := composed settings message trace
    explanation.expected.summary ≠ explanation.actual.summary ∧
      ∃ before expected actual after, expected ≠ actual ∧
        explanation.diff = Text.unlines
          (before ++ (expectedSign ++ expected) :: (actualSign ++ actual) :: after) := by
  intro explanation
  obtain ⟨row, marker, paired, differ⟩ := visible
  have shown : ∀ row ∈ shownRows settings trace, row.IsShowable := fun row member =>
    isShowable_of_mem_mergeStages showable (List.mem_of_mem_filter member)
  obtain ⟨expected, actual, lines, apart⟩ : ∃ expected actual, (expected, actual) ∈ pairLines
      (Text.lines explanation.expected.summary) (Text.lines explanation.actual.summary) ∧
      expected ≠ actual := by
    refine Report.exists_differing_lines (fun row member => (shown row member).aligned) ?_ paired
      differ
    intro other marker listed
    exact (shown other (Report.mem_of_mem_pairMarkers listed)).flat _ marker
  constructor
  · intro same
    rw [same] at lines
    exact apart (pairLines_self _ _ lines)
  · obtain ⟨before, after, marked⟩ := exists_diff_eq lines apart
    exact ⟨before, expected, actual, after, apart, marked⟩

/-- A merged row whose outputs differ without the white space at their ends is visible. -/
theorem Explanation.HasVisible.of_trimEnd_ne (reportable : ∀ row ∈ trace, row.IsReportable)
    (member : row ∈ mergeStages trace) (mismatch : row.isMismatch = true)
    (differ : Text.trimEnd (row.expected.output.summarize settings.cellWidth) ≠
      Text.trimEnd (row.actual.output.summarize settings.cellWidth)) :
    HasVisible settings trace := by
  have shown : row ∈ shownRows settings trace :=
    List.mem_filter.mpr ⟨member, isShown_of_isMismatch reportable member mismatch⟩
  obtain ⟨marker, paired, -⟩ := exists_marker shown 0
  exact ⟨row, marker, paired, Report.shownOutput_ne marker differ⟩

/-- A row that has to be explained is visible if its outputs differ at all. -/
theorem Explanation.HasVisible.of_explained (reportable : ∀ row ∈ trace, row.IsReportable)
    (member : row ∈ trace) (explained : row.requiresExplanation = true)
    (differ : row.expected.output.summarize settings.cellWidth ≠
      row.actual.output.summarize settings.cellWidth) :
    HasVisible settings trace := by
  obtain ⟨merged, listed, numbered, expected, actual⟩ :=
    exists_explained reportable member explained
  have shown : merged ∈ shownRows settings trace := by
    refine List.mem_filter.mpr ⟨listed, ?_⟩
    simp [isShown, numbered]
  obtain ⟨marker, paired, same⟩ := exists_marker shown 0
  rw [expected, actual] at differ
  refine ⟨merged, marker, paired, Report.shownOutput_ne_of_isSome ?_ differ⟩
  rw [same, numbered]

end Explanations

/-!
### Failed evaluations
-/

/-- What a failed evaluation came to looks like `true` in a report: it is an answer, and answers are
cut to an ellipsis, or it is a failure whose kind reads so.  The output of a row that raised a
failure has a number behind it unless details are suppressed, so only then white space at the end of
the kind makes no difference. -/
def Result.LooksTrue (settings : Settings) : Result Value → Prop
  | .returned _ => settings.cellWidth ≤ 3
  | .thrown failure =>
    (if settings.suppressDetails then Text.trimEnd failure.kind else failure.kind) =
      (Cell.value (.bool true)).summarize settings.cellWidth
  | .skipped => False

theorem Cell.trimEnd_summarize_true (limit : Nat) :
    Text.trimEnd ((Cell.value (.bool true)).summarize limit) =
      (Cell.value (.bool true)).summarize limit := by
  rw [Cell.summarize_true]
  split_ifs <;> decide

theorem Cell.trimEnd_false_ne {limit : Nat} (wide : 3 < limit) :
    Text.trimEnd ((Cell.value (.bool false)).summarize limit) ≠
      (Cell.value (.bool true)).summarize limit := by
  have notNarrow : ¬ limit ≤ 3 := Nat.not_le_of_lt wide
  rw [Cell.summarize_false, Cell.summarize_true, if_neg notNarrow, if_neg notNarrow]
  split_ifs <;> decide

theorem Cell.trimEnd_skipped_ne (limit : Nat) :
    Text.trimEnd (Cell.skipped.summarize limit) ≠
      (Cell.value (.bool true)).summarize limit := by
  rw [Cell.summarize_true, Cell.summarize]
  split_ifs <;> decide

/-- The text of a row that tells a result differs from what was expected, if that of the result
does. -/
theorem Cell.Tell.trimEnd_ne {limit : Nat} {result : Result Value} {expected actual : Cell}
    (tell : Cell.Tell true result expected actual)
    (apart : Text.trimEnd ((Cell.ofResult result).summarize limit) ≠
      (Cell.value (.bool true)).summarize limit) :
    Text.trimEnd (expected.summarize limit) ≠ Text.trimEnd (actual.summarize limit) := by
  obtain ⟨rfl, actual⟩ := tell
  rw [Cell.trimEnd_summarize_true]
  rcases actual with rfl | rfl
  · exact apart.symm
  · exact (Cell.trimEnd_skipped_ne limit).symm

theorem Row.isMismatch_of_tell {row : Row} {result : Result Value}
    (tell : Cell.Tell true result row.expected.output row.actual.output)
    (wrong : result ≠ .returned (.bool true)) : row.isMismatch = true := by
  rw [← Bool.not_eq_false]
  obtain ⟨expected, actual | actual⟩ := tell
  · exact fun agrees => wrong ((Row.isMismatch_eq_false_iff expected actual).mp agrees)
  · intro agrees
    have skipped : row.actual.output = .ofResult .skipped := actual
    cases (Row.isMismatch_eq_false_iff expected skipped).mp agrees

theorem Row.outputs_ne_of_isMismatch {row : Row} (mismatch : row.isMismatch = true) :
    row.expected.output ≠ row.actual.output := by
  intro same
  have agrees : row.isMismatch = !row.actual.output.same row.actual.output := by
    rw [Row.isMismatch, same]
    rfl
  rw [agrees, Cell.same_refl] at mismatch
  cases mismatch

/-- Where details are kept, the row that raised a failure is visible even if the kind of the failure
reads `true` without the white space at its end. -/
theorem Explanation.HasVisible.of_raises {settings : Settings} {forest : Forest} {failure : Failure}
    (raises : forest.Raises settings failure) (detailed : settings.suppressDetails = false)
    (reportable : ∀ row ∈ forest.rows 0, row.IsReportable)
    (showable : ∀ row ∈ forest.rows 0, row.IsShowable)
    (blank : Text.trimEnd failure.kind ≠ failure.kind) :
    HasVisible settings (forest.rows 0) := by
  obtain ⟨above, below, carried, shownAt, place, -, draft, flipped, value, -, rfl⟩ :=
    Forest.Somewhere.place raises 0
  obtain ⟨before, rest, listed, -⟩ := Forest.rows_of_place place
  have member : (draft.row settings flipped (.failed value failure)).atLevel shownAt ∈
      forest.rows 0 := by
    rw [listed]
    simp
  refine .of_explained reportable member ?_ ?_
  · simp [Row.atLevel, Draft.row, PendingRow.close, detailed, Attempt.failed]
  · have mismatch : ((draft.row settings flipped (.failed value failure)).atLevel
        shownAt).isMismatch = true := Draft.isMismatch_of_thrown rfl
    have differ := Row.outputs_ne_of_isMismatch mismatch
    obtain ⟨-, trimmed⟩ := (showable _ member).text_of_ne settings.cellWidth differ
    intro same
    rw [same] at trimmed
    exact blank trimmed

namespace Tree

section Failed

variable {settings : Settings} {tree : Tree} {input : Value} {account : Account}

theorem Evaluates.isShowable {flipped : Bool} {given : Option Value}
    (evaluates : Evaluates settings tree flipped given account) {level : Nat} {row : Row}
    (member : row ∈ account.forest.rows level) : row.IsShowable := by
  obtain ⟨carried, shownAt, inside, rfl, leaves⟩ := evaluates.leaves.of_mem_rows member
  obtain ⟨draft, flipped, attempt, rfl⟩ := leaves.exists_draft
  have showable := draft.isShowable settings flipped attempt
  exact ⟨showable.aligned, showable.plain⟩

theorem Evaluates.hasVisible_of_apart
    (evaluates : Evaluates settings tree false (some input) account)
    (answering : tree.answers = true)
    (wrong : account.outcome.result ≠ .returned (.bool true))
    (apart : Text.trimEnd
        ((Cell.ofResult account.outcome.result).summarize settings.cellWidth) ≠
      (Cell.value (.bool true)).summarize settings.cellWidth) :
    Explanation.HasVisible settings (account.forest.rows 0) := by
  obtain ⟨row, member, tell⟩ := evaluates.tells answering
  have listed := Forest.mem_rows_of_mem_tops member 0
  obtain ⟨merged, isMerged, told⟩ := evaluates.shown_merged
    (Cell.Tell true account.outcome.result)
    (fun wanted actual told => ⟨told.1, .inr rfl⟩) ⟨row.atLevel 0, listed, tell⟩
  exact .of_trimEnd_ne (fun row member => evaluates.isReportable member) isMerged
    (Row.isMismatch_of_tell told wrong) (told.trimEnd_ne apart)

/-- A failed evaluation that does not look like `true` in its report is visible there. -/
theorem Evaluates.hasVisible (evaluates : Evaluates settings tree false (some input) account)
    (answering : tree.answers = true) (answers : account.outcome.result.Answers)
    (failed : account.outcome.result ≠ .returned (.bool true))
    (apart : ¬ account.outcome.result.LooksTrue settings) :
    Explanation.HasVisible settings (account.forest.rows 0) := by
  by_cases alike : Text.trimEnd
      ((Cell.ofResult account.outcome.result).summarize settings.cellWidth) =
        (Cell.value (.bool true)).summarize settings.cellWidth
  · cases result : account.outcome.result with
    | returned value =>
        rw [result] at answers alike apart failed
        cases value with
        | bool answer =>
            cases answer with
            | true => exact absurd rfl failed
            | false => exact absurd alike (Cell.trimEnd_false_ne (Nat.lt_of_not_le apart))
        | _ =>
            obtain ⟨answer, given⟩ := answers ""
            cases given
    | skipped =>
        rw [result] at alike
        exact absurd alike (Cell.trimEnd_skipped_ne settings.cellWidth)
    | thrown failure =>
        rw [result] at alike apart
        change Text.trimEnd failure.kind = _ at alike
        cases detailed : settings.suppressDetails with
        | true => exact absurd alike (by simpa [Result.LooksTrue, detailed] using apart)
        | false =>
            have kind : failure.kind ≠
                (Cell.value (.bool true)).summarize settings.cellWidth := by
              simpa [Result.LooksTrue, detailed] using apart
            -- The rows around may show `true` for it, but the one that raised it has a number.
            refine .of_raises (evaluates.raises result) detailed
              (fun row member => evaluates.isReportable member)
              (fun row member => evaluates.isShowable member) ?_
            rw [alike]
            exact kind.symm
  · exact evaluates.hasVisible_of_apart answering failed alike

end Failed

/-- A well-typed tree without empty junctions can be evaluated on every input, and if it does not
pass, under whatever settings it was evaluated and is explained, the two summaries of its
explanation differ and their difference marks a pair of lines, unless what the evaluation came to
looks like `true` in a report.  There is such an explanation wherever the columns fit. -/
theorem evaluate_visible {tree : Tree} (typed : tree.WellTyped) (whole : tree.HasOperands)
    (settings : Settings) (input : Value) (message : String) :
    ∃ evaluation, tree.evaluate settings input = .ok evaluation ∧
      (evaluation.passed = false → ¬ evaluation.outcome.result.LooksTrue settings →
        Report.Delivers (Explanation.Fits settings evaluation.trace)
          (Explanation.compose settings message evaluation.trace) fun explanation =>
            explanation.expected.summary ≠ explanation.actual.summary ∧
              ∃ before expected actual after, expected ≠ actual ∧
                explanation.diff = Text.unlines
                  (before ++ (Explanation.expectedSign ++ expected) ::
                    (Explanation.actualSign ++ actual) :: after)) := by
  obtain ⟨account, given, answers⟩ := account_answers typed.2 whole settings false input
  have evaluates := evaluates_of_account given
  refine ⟨account.evaluation settings, ?_, fun failed apart => ?_⟩
  · rw [evaluate_eq_account, validate_eq_ok_iff.mpr whole, given]
    rfl
  · have notPassed : account.outcome.result ≠ .returned (.bool true) := by
      intro returned
      rw [Evaluation.passed_iff.mpr returned] at failed
      cases failed
    have visible := evaluates.hasVisible typed.1 (answers typed.1) notPassed apart
    exact Explanation.delivers_compose
      (visible.differs (fun row member => evaluates.isShowable member) message)

/-- The row of a checking stage is merged away here with a mapping stage that agrees with what was
expected, and the leaf below still tells the summaries apart. -/
theorem evaluate_visible_nested :
    let stages :=
      transform (.function .length) (.transform (.function .stringify) (.leaf .isTrue))
    ∃ evaluation explanation, stages.evaluate {} (.text "ab") = .ok evaluation ∧
      evaluation.passed = false ∧ Explanation.Fits {} evaluation.trace ∧
      Explanation.compose {} "stages" evaluation.trace = .ok explanation ∧
      explanation.expected.summary ≠ explanation.actual.summary := by
  have innerAsked : WellAsked (.transform (.function .stringify) (.leaf .isTrue)) :=
    wellAsked_iff.mpr (by
      simpa [asked, parts] using ⟨wellAsked_function .stringify, wellAsked_leaf .isTrue⟩)
  intro stages
  have typed : stages.WellTyped :=
    ⟨rfl, wellAsked_iff.mpr
      (by simpa [stages, asked, parts] using ⟨wellAsked_function .length, innerAsked⟩)⟩
  have whole : stages.HasOperands := validate_eq_ok_iff.mp rfl
  have run : ∃ evaluation, stages.evaluate {} (.text "ab") = .ok evaluation ∧
      evaluation.outcome.result = .returned (.bool false) ∧
      Explanation.Fits {} evaluation.trace := ⟨_, rfl, rfl, by decide⟩
  obtain ⟨evaluation, evaluated, visible⟩ :=
    evaluate_visible typed whole {} (.text "ab") "stages"
  obtain ⟨same, ran, result, fits⟩ := run
  rw [evaluated] at ran
  cases ran
  have failed : evaluation.passed = false := by
    rw [← Bool.not_eq_true, Evaluation.passed_iff, result]
    simp
  have apart : ¬ evaluation.outcome.result.LooksTrue {} := by
    rw [result]
    change ¬ defaultCellWidth ≤ 3
    decide
  obtain ⟨explanation, composed, differ, -⟩ := (visible failed apart).returns fits
  exact ⟨evaluation, explanation, evaluated, failed, fits, composed, differ⟩

/-- The tree is well-typed and without empty junctions, its evaluation on the input does not pass,
and the two summaries of the explanation are the same. -/
def HidesFailure (settings : Settings) (tree : Tree) (input : Value) : Prop :=
  tree.WellTyped ∧ tree.HasOperands ∧
    ∃ evaluation explanation, tree.evaluate settings input = .ok evaluation ∧
      evaluation.passed = false ∧
      Explanation.compose settings "value was not valid" evaluation.trace = .ok explanation ∧
      explanation.expected.summary = explanation.actual.summary

theorem wellTyped_leaf (check : Check) : WellTyped (.leaf check) :=
  ⟨rfl, wellAsked_leaf check⟩

/-- What looks like `true` may be hidden: an answer where answers are cut to an ellipsis, a failure
of the kind `true`, one with white space behind it where details are suppressed, and one whose kind
is the ellipsis that answers are cut to. -/
theorem evaluate_hides :
    HidesFailure { cellWidth := 3 } (.leaf .isTrue) (.bool false) ∧
    HidesFailure {} (.leaf (.failing "f" { kind := "true", message := "m" })) (.bool false) ∧
    HidesFailure { suppressDetails := true }
      (.leaf (.failing "f" { kind := "true ", message := "m" })) (.bool false) ∧
    HidesFailure { cellWidth := 3 } (.leaf (.failing "f" { kind := "...", message := "m" }))
      (.bool false) := by
  have whole : ∀ check, HasOperands (.leaf check) := fun check => validate_eq_ok_iff.mp rfl
  refine ⟨⟨wellTyped_leaf _, whole _, ?_⟩, ⟨wellTyped_leaf _, whole _, ?_⟩,
    ⟨wellTyped_leaf _, whole _, ?_⟩, ⟨wellTyped_leaf _, whole _, ?_⟩⟩
  · exact ⟨_, _, rfl, rfl, rfl, rfl⟩
  · exact ⟨_, _, rfl, rfl, rfl, rfl⟩
  · exact ⟨_, _, rfl, rfl, rfl, rfl⟩
  · exact ⟨_, _, rfl, rfl, rfl, rfl⟩

end Tree

end Rationale
