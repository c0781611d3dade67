/-
Module: Rationale.Proofs.Details
Purpose: The explanation of an evaluation tells every detail recorded, and what it leaves out
  neither diverges nor needs to be explained.
Main exports: Row.IsReportable, Tree.Evaluates.isReportable, Explanation.map_sectionsOf,
  Tree.evaluate_compose
-/
import Rationale.Check.Stock
import Rationale.Mapping.Stock
import Rationale.Proofs.Explaining
import Rationale.Proofs.Runs
import Rationale.Proofs.Widths

namespace Rationale

/-- What a report relies on in a row: it has its details if it has to be explained, a stage never
has to be, and a row that can be ignored does not diverge. -/
structure Row.IsReportable (row : Row) : Prop where
  expected : row.expected.detail.isSome = row.requiresExplanation
  actual : row.actual.detail.isSome = row.requiresExplanation
  silent : row.mergeable = true → row.requiresExplanation = false
  agrees : row.ignored = true → row.isMismatch = false

namespace Tree

theorem Leaves.silent {settings : Settings} {tree : Tree} {row : Row} {inner : Forest}
    (leaves : Leaves settings tree row inner) (mergeable : row.mergeable = true) :
    row.requiresExplanation = false := by
  cases explained : row.requiresExplanation with
  | false => rfl
  | true =>
      exfalso
      cases leaves with
      | asked => cases mergeable
      | @applied draft mapping flipped isFunction =>
          have stage : draft.kind.isMergeable = true := mergeable
          rw [isFunction] at stage
          cases stage
      | @refused draft flipped value failure takesApart _ =>
          have stage : draft.kind.isMergeable = true := mergeable
          rcases takesApart with kind | kind
          · rw [kind] at stage
            cases stage
          · rw [kind] at stage
            cases stage
      | unasked => cases Draft.detail_of_requiresExplanation explained
      | concluded => cases Draft.detail_of_requiresExplanation explained

theorem Evaluates.isReportable {settings : Settings} {tree : Tree} {flipped : Bool}
    {input : Option Value} {account : Account}
    (evaluates : Evaluates settings tree flipped input account) {level : Nat} {row : Row}
    (member : row ∈ account.forest.rows level) : row.IsReportable := by
  obtain ⟨carried, shownAt, inside, rfl, leaves⟩ := evaluates.leaves.of_mem_rows member
  obtain ⟨expected, actual⟩ := leaves.detail_isSome
  exact ⟨expected, actual, leaves.silent, leaves.isMismatch_of_ignored⟩

end Tree

namespace Explanation

/-- Rows that have to be explained are always shown. -/
theorem sectionsOf_shownRows (settings : Settings) (side : Row → Side) (trace : Trace) :
    sectionsOf side (shownRows settings trace) = sectionsOf side (mergeStages trace) := by
  have shown : (fun row : Row => row.requiresExplanation && isShown settings row) =
      Row.requiresExplanation := by
    funext row
    cases explained : row.requiresExplanation with
    | false => rfl
    | true => simp [isShown, explained]
  rw [sectionsOf, sectionsOf, shownRows, List.filter_filter, shown]

/-- The numbered sections are the details of the rows, if each of these has one. -/
theorem map_sectionsOf {side : Row → Side} {rows : Trace}
    (told : ∀ detail ∈ Trace.details side rows, detail.isSome) :
    (sectionsOf side rows).map (fun part => (part.index, some part.text)) =
      (Trace.details side rows).mapIdx Prod.mk := by
  refine List.ext_getElem? fun index => ?_
  rw [sectionsOf, Trace.details, List.getElem?_map, List.getElem?_mapIdx, List.getElem?_mapIdx,
    List.getElem?_map]
  cases found : (rows.filter Row.requiresExplanation)[index]? with
  | none => rfl
  | some row =>
      have listed : (side row).detail ∈ Trace.details side rows :=
        List.mem_map_of_mem (List.mem_of_getElem? found)
      obtain ⟨detail, given⟩ := Option.isSome_iff_exists.mp (told _ listed)
      simp [given]

/-- The sections of an explanation are the details of the rows of the trace that have one, if the
trace is one that can be reported. -/
theorem map_sectionsOf_merged {side : Row → Side}
    (sided : ∀ first second : Row, side (first.absorb second) = first.absorbSide second side)
    (detailed : ∀ row : Row, row.IsReportable → (side row).detail.isSome = row.requiresExplanation)
    {trace : Trace} (reportable : ∀ row ∈ trace, row.IsReportable) (settings : Settings) :
    (sectionsOf side (shownRows settings trace)).map (fun part => (part.index, some part.text)) =
      (Trace.details side trace).mapIdx Prod.mk := by
  have kept : Trace.details side (mergeStages trace) = Trace.details side trace :=
    Trace.details_mergeStages sided fun row member => (reportable row member).silent
  have told : ∀ detail ∈ Trace.details side trace, detail.isSome := by
    intro detail member
    obtain ⟨row, listed, rfl⟩ := List.mem_map.mp member
    obtain ⟨isRow, explained⟩ := List.mem_filter.mp listed
    rw [detailed row (reportable row isRow), explained]
  rw [← kept] at told ⊢
  rw [sectionsOf_shownRows, map_sectionsOf told]

/-- A row that is left out stands only for rows that neither diverge nor have to be explained. -/
theorem agrees_of_not_isShown {settings : Settings} {run : Run}
    (reportable : ∀ row ∈ run.members, row.IsReportable)
    (dropped : isShown settings run.row = false) :
    ∀ row ∈ run.members, row.isMismatch = false ∧ row.requiresExplanation = false := by
  simp only [isShown, Bool.or_eq_false_iff, Bool.not_eq_false'] at dropped
  obtain ⟨⟨-, ignored⟩, silent⟩ := dropped
  cases run with
  | single row =>
      intro other member
      obtain rfl := List.mem_singleton.mp member
      exact ⟨(reportable other member).agrees ignored, silent⟩
  | merged stage content absorbs =>
      have bothIgnored : stage.ignored = true ∧ content.ignored = true := by
        simpa [Run.row, Row.absorb] using ignored
      have bothSilent : stage.requiresExplanation = false ∧
          content.requiresExplanation = false := by
        simpa [Run.row, Row.absorb] using silent
      intro other member
      have reports := reportable other member
      rcases List.mem_pair.mp member with rfl | rfl
      · exact ⟨reports.agrees bothIgnored.1, bothSilent.1⟩
      · exact ⟨reports.agrees bothIgnored.2, bothSilent.2⟩

end Explanation

namespace Tree

/-- Whatever the settings of the report, where its columns fit, the sections of the explanation of
an evaluation are, in order and one for one, the details of the rows of the trace that have to be
explained, on the expected and on the actual side; where they do not, there is no explanation.  And
a row that is left out stands only for rows of the trace that neither diverge nor have to be
explained. -/
theorem evaluate_compose {settings : Settings} {tree : Tree} {input : Value}
    {evaluation : Evaluation} (evaluated : tree.evaluate settings input = .ok evaluation)
    (report : Settings) (message : String) :
    Report.Delivers (Explanation.Fits report evaluation.trace)
        (Explanation.compose report message evaluation.trace) (fun explanation =>
          explanation.expected.sections.map (fun part => (part.index, some part.text)) =
              (Trace.details Row.expected evaluation.trace).mapIdx Prod.mk ∧
            explanation.actual.sections.map (fun part => (part.index, some part.text)) =
              (Trace.details Row.actual evaluation.trace).mapIdx Prod.mk) ∧
      (Trace.runs evaluation.trace).map Run.row = mergeStages evaluation.trace ∧
      (Trace.runs evaluation.trace).flatMap Run.members = evaluation.trace ∧
      ∀ run ∈ Trace.runs evaluation.trace, Explanation.isShown report run.row = false →
        ∀ row ∈ run.members, row.isMismatch = false ∧ row.requiresExplanation = false := by
  obtain ⟨account, evaluates, rfl⟩ := evaluate_ok evaluated
  have reportable : ∀ row ∈ account.forest.rows 0, row.IsReportable := fun row member =>
    evaluates.isReportable member
  refine ⟨Explanation.delivers_compose ⟨?_, ?_⟩, Trace.map_row_runs _,
    Trace.flatMap_members_runs _, ?_⟩
  · exact Explanation.map_sectionsOf_merged (fun _ _ => rfl) (fun _ => Row.IsReportable.expected)
      reportable report
  · exact Explanation.map_sectionsOf_merged (fun _ _ => rfl) (fun _ => Row.IsReportable.actual)
      reportable report
  · intro run isRun dropped
    refine Explanation.agrees_of_not_isShown (fun row member => ?_) dropped
    exact reportable row (Trace.mem_of_mem_members isRun member)

/-- A failed mapping is merged into its stage, and the one section tells of its failure. -/
theorem evaluate_compose_of_length :
    let stages := transform (.function .length) (.leaf .isNull)
    ∃ evaluation explanation, stages.evaluate {} (.int 1) = .ok evaluation ∧
      evaluation.trace.length = 4 ∧ (mergeStages evaluation.trace).length = 2 ∧
      (Trace.details Row.actual evaluation.trace).length = 1 ∧
      Explanation.Fits {} evaluation.trace ∧
      Explanation.compose {} "length" evaluation.trace = .ok explanation ∧
      explanation.actual.sections.map (fun part => (part.index, some part.text)) =
        (Trace.details Row.actual evaluation.trace).mapIdx Prod.mk ∧
      ∀ run ∈ Trace.runs evaluation.trace, Explanation.isShown {} run.row = false →
        ∀ row ∈ run.members, row.isMismatch = false ∧ row.requiresExplanation = false := by
  intro stages
  obtain ⟨evaluation, evaluated, rows, merged, told, fits⟩ : ∃ evaluation,
      stages.evaluate {} (.int 1) = .ok evaluation ∧
        evaluation.trace.length = 4 ∧ (mergeStages evaluation.trace).length = 2 ∧
        (Trace.details Row.actual evaluation.trace).length = 1 ∧
        Explanation.Fits {} evaluation.trace := ⟨_, rfl, rfl, rfl, rfl, by decide⟩
  clear_value stages
  obtain ⟨delivers, -, -, dropped⟩ := evaluate_compose evaluated {} "length"
  obtain ⟨explanation, composed, -, actual⟩ := delivers.returns fits
  exact ⟨evaluation, explanation, evaluated, rows, merged, told, fits, composed, actual, dropped⟩

/-- The failure of a check is told by no section if the name of the check is too long. -/
theorem evaluate_compose_panics :
    let tree := leaf (.failing (Text.nameOf 65536) { kind := "E", message := "m" })
    ∃ evaluation, tree.evaluate {} .null = .ok evaluation ∧
      (Trace.details Row.actual evaluation.trace).length = 1 ∧
      Explanation.compose {} "value was not valid" evaluation.trace = .error .widthOutOfRange := by
  intro tree
  refine ⟨_, rfl, rfl, ?_⟩
  exact Explanation.compose_of_long (List.mem_singleton_self _) Text.widthLimit_lt_length_nameOf

end Tree

end Rationale
