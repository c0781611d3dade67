/-
Module: Rationale.Proofs.Staging
Purpose: What the row of a stage shows is shown again by the rows inside it, so that merging the two
  hides nothing.
Main exports: Row.SharesOutputs, Row.HandsOn, Tree.Evaluates.handsOn, exists_mergeStages,
  Tree.evaluate_merges
-/
import Rationale.Mapping.Stock
import Rationale.Proofs.Preorder
import Rationale.Proofs.Runs
import Rationale.Proofs.Skipping

namespace Rationale

namespace Row

/-- Two rows expect the same output and have the same output. -/
def SharesOutputs (first second : Row) : Prop :=
  first.expected.output = second.expected.output ∧ first.actual.output = second.actual.output

/-- No more rows of the same part stand beside the row. -/
def IsAlone (row : Row) : Prop :=
  row.kind ≠ .transform ∧ (row.kind = .function → row.continued = false)

/-- Some row of these repeats the verdict of the row, unless it was skipped. -/
def IsRepeated (row : Row) (rows : List Row) : Prop :=
  ∃ verdict ∈ rows, verdict.expected.output = row.expected.output ∧
    (verdict.actual.output = row.actual.output ∨ verdict.actual.output = .skipped)

/-- The row of a stage has its output from the part inside it.  If that is a part with a single row
of the same sort, the two rows have the same outputs; and if a transformation does the checking,
some row of it repeats the verdict. -/
structure HandsOn (row : Row) (inner : Forest) : Prop where
  shares : row.kind.isMergeable = true → ∀ content ∈ inner.tops.head?, content.IsAlone →
    content.kind.isBoolean = row.kind.isBoolean → row.SharesOutputs content
  defers : row.kind = .check → ∀ content ∈ inner.tops.head?, content.kind = .transform →
    (∃ wanted, row.expected.output = .value (.bool wanted)) ∧ row.IsRepeated inner.tops

end Row

/-!
### The rows of a part

A part leaves a single row, but for a chain, which begins with a row that is continued, and a
transformation, which begins with the row of its mapping stage.
-/

theorem Draft.sharesOutputs {settings : Settings} {flipped : Bool} {draft other : Draft}
    {attempt further : Attempt} (sort : draft.kind.isBoolean = other.kind.isBoolean)
    (result : attempt.outcome.result = further.outcome.result) :
    (draft.row settings flipped attempt).SharesOutputs (other.row settings flipped further) := by
  constructor
  · simp [Draft.row, PendingRow.close, Recorder.pendingRow, sort, result, Recorder.wantedAnswer]
  · simp [Draft.row, PendingRow.close, result]

theorem Account.handsOn_within {settings : Settings} {flipped : Bool} {draft : Draft}
    {attempt : Attempt} {inner : Forest} (unstaged : draft.kind.isMergeable = false)
    (inside : inner.Everywhere Row.HandsOn) :
    (Account.within settings flipped draft attempt inner).forest.Everywhere Row.HandsOn := by
  have kind : (draft.row settings flipped attempt).kind = draft.kind := rfl
  refine .node ⟨?_, ?_⟩ inside
  · intro staged
    rw [kind, unstaged] at staged
    cases staged
  · intro checks
    rw [← kind, checks] at unstaged
    cases unstaged

namespace Tree

variable {settings : Settings} {tree : Tree} {flipped : Bool} {input : Option Value}
  {account : Account}

/-- A single row of a part shows what the part came to. -/
theorem Evaluates.row_of_alone (evaluates : Evaluates settings tree flipped input account)
    {content : Row} (first : content ∈ account.forest.tops.head?) (alone : content.IsAlone) :
    ∃ (draft : Draft) (attempt : Attempt), content = draft.row settings flipped attempt ∧
      attempt.outcome.result = account.outcome.result := by
  induction evaluates with
  | identity _ _ ih => exact ih first
  | chain headed _ _ =>
      subst headed
      cases first
      cases alone.2 rfl
  | transform _ _ staged _ _ _ =>
      subst staged
      cases first
      exact absurd rfl alone.1
  | _ =>
      cases first
      exact ⟨_, _, rfl, rfl⟩

/-- A checking stage comes to what the checker comes to, also where nothing was there to check. -/
theorem Evaluates.result_checkingStage
    (evaluates : Evaluates settings tree flipped input account) :
    (checkingStage settings flipped input account).outcome.result = account.outcome.result := by
  cases input with
  | none => exact (evaluates.skipped rfl).1.symm
  | some value => rfl

/-- A transformation that does the checking for another repeats the verdict of that in the row of
its own checking stage. -/
theorem Evaluates.isRepeated_of_transform
    (evaluates : Evaluates settings tree flipped input account)
    {content : Row} (first : content ∈ account.forest.tops.head?)
    (staged : content.kind = .transform) {verdict : Row}
    (expected : verdict.expected.output = .value (.bool !flipped))
    (actual : verdict.actual.output = .ofResult account.outcome.result) :
    verdict.IsRepeated account.forest.tops := by
  induction evaluates with
  | identity _ _ ih => exact ih first expected actual
  | @transform mapper checker flipped input mapping stage checking _ _ _ _ _ _ =>
      have checkingRow : ∃ row ∈ (checkingStage settings flipped stage.outcome.value?
          checking).forest.tops, row.expected.output = .value (.bool !flipped) ∧
            row.actual.output = .ofResult
              (if stage.outcome.value?.isSome then checking.outcome else .skipped).result :=
        ⟨_, List.mem_singleton_self _, rfl, rfl⟩
      obtain ⟨row, member, wanted, shown⟩ := checkingRow
      refine ⟨row, ?_, wanted.trans expected.symm, ?_⟩
      · rw [Account.andThen, Forest.tops_append]
        exact List.mem_append_right _ member
      · cases produced : stage.outcome.value? with
        | none =>
            rw [produced] at shown
            exact .inr shown
        | some next =>
            rw [Account.outcome_andThen_of_some _ produced] at actual
            rw [produced] at shown actual
            exact .inl (shown.trans actual.symm)
  | chain headed _ _ =>
      subst headed
      cases first
      cases staged
  | junction =>
      cases first
      cases ‹Connective› <;> cases staged
  | _ =>
      cases first
      cases staged

theorem Evaluates.handsOn_mappingStage {draft : Draft} (staged : draft.kind = .transform)
    (evaluates : Evaluates settings tree flipped input account)
    (inside : account.forest.Everywhere Row.HandsOn) :
    (mappingStage settings flipped draft account).forest.Everywhere Row.HandsOn := by
  refine .node ⟨?_, ?_⟩ inside
  · intro _ content isFirst alone sort
    obtain ⟨inner, attempt, rfl, result⟩ := evaluates.row_of_alone isFirst alone
    exact Draft.sharesOutputs sort.symm result.symm
  · intro checks
    cases staged.symm.trans checks

theorem Evaluates.handsOn_checkingStage
    (evaluates : Evaluates settings tree flipped input account)
    (inside : account.forest.Everywhere Row.HandsOn) :
    (checkingStage settings flipped input account).forest.Everywhere Row.HandsOn := by
  have result := evaluates.result_checkingStage
  refine .node ⟨?_, ?_⟩ inside
  · intro _ content isFirst alone sort
    obtain ⟨inner, attempt, rfl, shown⟩ := evaluates.row_of_alone isFirst alone
    exact Draft.sharesOutputs sort.symm (result.trans shown.symm)
  · intro _ content isFirst staged
    refine ⟨⟨!flipped, rfl⟩, evaluates.isRepeated_of_transform isFirst staged rfl ?_⟩
    exact congrArg Cell.ofResult result

/-- Everywhere in an evaluation the stages hand on what the parts inside them show. -/
theorem Evaluates.handsOn (evaluates : Evaluates settings tree flipped input account) :
    account.forest.Everywhere Row.HandsOn := by
  induction evaluates with
  | leaf => exact Account.handsOn_within rfl trivial
  | @junction connective _ _ _ _ _ _ _ _ _ ih =>
      refine Account.handsOn_within ?_ (.of_visits ih)
      cases connective <;> rfl
  | negation _ _ ih => exact Account.handsOn_within rfl ih
  | function => exact Account.handsOn_within rfl trivial
  | chain headed _ ih =>
      refine .append ?_ ih
      rw [headed]
      exact Account.handsOn_within rfl trivial
  | identity _ _ ih => exact ih
  | transform _ mapped staged checked mapperIH checkerIH =>
      refine .append ?_ (checked.handsOn_checkingStage checkerIH)
      rw [staged]
      exact mapped.handsOn_mappingStage rfl mapperIH
  | quantifierSkipped _ ih => exact Account.handsOn_within rfl ih
  | quantifierRefused _ => exact Account.handsOn_within rfl trivial
  | quantifier _ _ _ _ _ ih => exact Account.handsOn_within rfl (.of_visits ih)
  | curriedSkipped _ ih => exact Account.handsOn_within rfl ih
  | curriedRefused _ => exact Account.handsOn_within rfl trivial
  | curried _ _ ih => exact Account.handsOn_within rfl ih

end Tree

/-!
### Neighbours in the trace

A row that stands one level below the row before it is the first of those inside that row.
-/

/-- Of a row with an inner one right behind it a condition on its forest holds with the forest that
begins with the inner row, and all that stands beside the inner row is listed from there on. -/
theorem Forest.Everywhere.at_next {condition : Row → Forest → Prop} {level : Nat} {forest : Forest}
    (holds : forest.Everywhere condition) {before after : List Row} {first second : Row}
    (split : forest.rows level = before ++ first :: second :: after)
    (deeper : second.level = first.level + 1) :
    ∃ carried shownAt inside, first = Row.atLevel shownAt carried ∧ condition carried inside ∧
      (∃ content ∈ inside.tops.head?, second = content.atLevel second.level) ∧
      ∀ row ∈ inside.tops, row.atLevel second.level ∈ second :: after := by
  obtain ⟨above, inside, rest, place, -, listed, childless⟩ := Forest.place_of_rows split []
  obtain ⟨carried, shownAt, same, here⟩ := holds.at_place place
  rw [← deeper] at listed
  refine ⟨carried, shownAt, inside, same, here, ?_, ?_⟩
  · cases inside with
    | nil =>
        have outer := childless second (by rw [← show second :: after = rest from listed]; rfl)
        omega
    | cons content inner beside =>
        exact ⟨content, rfl, (List.cons.inj listed).1⟩
  · intro row member
    rw [listed]
    apply List.mem_append_left
    exact Forest.mem_rows_of_mem_tops member second.level

theorem Row.absorbs_iff {first second : Row} :
    first.absorbs second = true ↔ first.mergeable = true ∧ second.level = first.level + 1 ∧
      (first.kind = .transform ∧ second.kind = .function ∧ second.continued = false ∨
        first.kind = .check ∧ second.kind.isCheckContent = true) := by
  cases kind : first.kind <;> simp [Row.absorbs, kind, and_assoc]

/-- Unless a transformation does the checking, the row that is absorbed is the only one of its part
and of the same sort as the stage. -/
theorem Row.isAlone_of_absorbs {first second : Row} (absorbs : first.absorbs second = true)
    (direct : ¬ (first.kind = .check ∧ second.kind = .transform)) :
    second.IsAlone ∧ second.kind.isBoolean = first.kind.isBoolean ∧
      first.kind.isMergeable = true := by
  obtain ⟨-, -, ⟨maps, function, whole⟩ | ⟨checks, content⟩⟩ := Row.absorbs_iff.mp absorbs
  · rw [maps, function]
    refine ⟨⟨?_, fun _ => whole⟩, rfl, rfl⟩
    rw [function]
    exact Kind.noConfusion
  · have notMapped : second.kind ≠ .transform := fun staged => direct ⟨checks, staged⟩
    rw [checks]
    rw [Row.IsAlone]
    cases kind : second.kind <;> simp_all [Kind.isCheckContent, Kind.isBoolean, Kind.isMergeable]

/-- Whatever the outputs of some row of a trace show is shown by some row of the merged trace as
well, if a row that is absorbed, or a later one, shows what the row that absorbs it shows. -/
theorem exists_mergeStages {shows : Cell → Cell → Prop} {trace : Trace}
    (later : ∀ before first second after, trace = before ++ first :: second :: after →
      first.absorbs second = true → shows first.expected.output first.actual.output →
      ∃ row ∈ second :: after, shows row.expected.output row.actual.output)
    (shown : ∃ row ∈ trace, shows row.expected.output row.actual.output) :
    ∃ row ∈ mergeStages trace, shows row.expected.output row.actual.output := by
  fun_induction mergeStages trace with
  | case1 => exact shown
  | case2 row => exact shown
  | case3 first second rest absorbs ih =>
      have onward : ∃ row ∈ second :: rest, shows row.expected.output row.actual.output := by
        obtain ⟨row, member, here⟩ := shown
        rcases List.mem_cons.mp member with rfl | member
        · exact later [] row second rest rfl absorbs here
        · exact ⟨row, member, here⟩
      obtain ⟨row, member, here⟩ := onward
      rcases List.mem_cons.mp member with rfl | member
      · exact ⟨_, List.mem_cons_self, here⟩
      · have found := ih (fun before next content after split =>
          later (first :: second :: before) next content after (by rw [split]; rfl))
          ⟨row, member, here⟩
        obtain ⟨row, member, here⟩ := found
        exact ⟨row, List.mem_cons_of_mem _ member, here⟩
  | case4 first second rest apart ih =>
      obtain ⟨row, member, here⟩ := shown
      rcases List.mem_cons.mp member with rfl | member
      · exact ⟨row, List.mem_cons_self, here⟩
      · have found := ih (fun before next content after split =>
          later (first :: before) next content after (by rw [split]; rfl)) ⟨row, member, here⟩
        obtain ⟨row, member, here⟩ := found
        exact ⟨row, List.mem_cons_of_mem _ member, here⟩

theorem Row.isMismatch_absorb (first second : Row) :
    (first.absorb second).isMismatch = second.isMismatch := rfl

/-- Merging makes no mismatch: the rows of a merged trace have their outputs from the trace. -/
theorem exists_of_mergeStages {trace : Trace} {row : Row} (member : row ∈ mergeStages trace) :
    ∃ source ∈ trace, row.isMismatch = source.isMismatch := by
  obtain ⟨run, isRun, rfl⟩ := Trace.exists_run member
  cases run with
  | single row => exact ⟨row, Trace.mem_of_mem_members isRun (by simp [Run.members]), rfl⟩
  | merged stage content absorbs =>
      exact ⟨content, Trace.mem_of_mem_members isRun (by simp [Run.members]),
        Row.isMismatch_absorb stage content⟩

namespace Tree

section Traces

variable {settings : Settings} {tree : Tree} {flipped : Bool} {input : Option Value}
  {account : Account} {level : Nat} {before after : List Row} {first second : Row}

theorem Evaluates.shares_of_absorbs (evaluates : Evaluates settings tree flipped input account)
    (split : account.forest.rows level = before ++ first :: second :: after)
    (absorbs : first.absorbs second = true)
    (direct : ¬ (first.kind = .check ∧ second.kind = .transform)) :
    first.SharesOutputs second := by
  have deeper := (Row.absorbs_iff.mp absorbs).2.1
  obtain ⟨carried, shownAt, inside, rfl, hands, ⟨content, isFirst, same⟩, -⟩ :=
    evaluates.handsOn.at_next split deeper
  obtain ⟨alone, sort, staged⟩ := Row.isAlone_of_absorbs absorbs direct
  rw [same] at alone sort ⊢
  exact hands.shares staged content isFirst alone sort

theorem Evaluates.repeated_of_absorbs (evaluates : Evaluates settings tree flipped input account)
    (split : account.forest.rows level = before ++ first :: second :: after)
    (absorbs : first.absorbs second = true) (checks : first.kind = .check)
    (maps : second.kind = .transform) :
    (∃ wanted, first.expected.output = .value (.bool wanted)) ∧
      first.IsRepeated (second :: after) := by
  have deeper := (Row.absorbs_iff.mp absorbs).2.1
  obtain ⟨carried, shownAt, inside, rfl, hands, ⟨content, isFirst, same⟩, listed⟩ :=
    evaluates.handsOn.at_next split deeper
  rw [same] at maps
  obtain ⟨wanted, verdict, member, repeats⟩ := hands.defers checks content isFirst maps
  exact ⟨wanted, verdict.atLevel second.level, listed verdict member, repeats⟩

/-- What the outputs of a row of a trace show, the merged trace shows, provided that it is shown of
a row that was skipped whenever it is shown of another that expects the same answer. -/
theorem Evaluates.shown_merged (evaluates : Evaluates settings tree flipped input account)
    (shows : Cell → Cell → Prop)
    (skipped : ∀ wanted actual, shows (.value (.bool wanted)) actual →
      shows (.value (.bool wanted)) .skipped)
    (shown : ∃ row ∈ account.forest.rows level, shows row.expected.output row.actual.output) :
    ∃ row ∈ mergeStages (account.forest.rows level),
      shows row.expected.output row.actual.output := by
  refine exists_mergeStages ?_ shown
  intro before first second after split absorbs here
  by_cases deferred : first.kind = .check ∧ second.kind = .transform
  · obtain ⟨⟨wanted, expected⟩, verdict, member, same, repeats⟩ :=
      evaluates.repeated_of_absorbs split absorbs deferred.1 deferred.2
    refine ⟨verdict, member, ?_⟩
    rcases repeats with actual | passed
    · rw [same, actual]
      exact here
    · rw [expected] at same here
      rw [same, passed]
      exact skipped wanted _ here
  · obtain ⟨expected, actual⟩ := evaluates.shares_of_absorbs split absorbs deferred
    rw [expected, actual] at here
    exact ⟨second, List.mem_cons_self, here⟩

end Traces

/-- Merging hides no divergence.  A row that absorbs the next one has the same outputs, unless it is
the row of a checking stage and the next one that of a mapping stage; and the merged trace has a
mismatch if and only if the trace has one. -/
theorem evaluate_merges (settings : Settings) (tree : Tree) (input : Value)
    (evaluation : Evaluation) (evaluated : tree.evaluate settings input = .ok evaluation) :
    (∀ before first second after, evaluation.trace = before ++ first :: second :: after →
      first.absorbs second = true → ¬ (first.kind = .check ∧ second.kind = .transform) →
      first.expected.output = second.expected.output ∧
        first.actual.output = second.actual.output) ∧
    ((∃ row ∈ mergeStages evaluation.trace, row.isMismatch = true) ↔
      ∃ row ∈ evaluation.trace, row.isMismatch = true) := by
  obtain ⟨account, evaluates, rfl⟩ := evaluate_ok evaluated
  refine ⟨?_, ?_, ?_⟩
  · intro before first second after split
    exact evaluates.shares_of_absorbs split
  · rintro ⟨row, member, mismatch⟩
    obtain ⟨source, isSource, same⟩ := exists_of_mergeStages member
    exact ⟨source, isSource, same ▸ mismatch⟩
  · -- An answer never equals the output of a row that was skipped.
    exact evaluates.shown_merged (fun expected actual => (expected != actual) = true)
      fun _ _ _ => rfl

/-- A checking stage gives up its verdict to the transformation that checks for it, and a row
further in still shows the mismatch. -/
theorem evaluate_merges_nested :
    let stages :=
      transform (.function .length) (.transform (.function .stringify) (.leaf .isTrue))
    ∃ evaluation, stages.evaluate {} (.text "ab") = .ok evaluation ∧
      (∃ before first second after, evaluation.trace = before ++ first :: second :: after ∧
        first.absorbs second = true ∧ first.isMismatch = true ∧ second.isMismatch = false) ∧
      ∃ row ∈ mergeStages evaluation.trace, row.isMismatch = true := by
  intro stages
  obtain ⟨evaluation, evaluated, ⟨before, first, second, after, split, absorbs, wrong, right⟩⟩ :
      ∃ evaluation, stages.evaluate {} (.text "ab") = .ok evaluation ∧
        ∃ before first second after, evaluation.trace = before ++ first :: second :: after ∧
          first.absorbs second = true ∧ first.isMismatch = true ∧ second.isMismatch = false :=
    ⟨_, rfl, [_, _], _, _, _, rfl, rfl, rfl, rfl⟩
  have kept := (evaluate_merges {} stages (.text "ab") evaluation evaluated).2
  refine ⟨evaluation, evaluated, ⟨before, first, second, after, split, absorbs, wrong, right⟩, ?_⟩
  refine kept.mpr ⟨first, ?_, wrong⟩
  rw [split]
  simp

end Tree

end Rationale
