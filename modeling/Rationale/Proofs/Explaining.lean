/-
Module: Rationale.Proofs.Explaining
Purpose: Exactly the right rows are explained, and every failure is explained where it was raised.
Main exports: Row.HasCause, Row.Reports, Row.Spans, Tree.Leaves.requiresExplanation_iff,
  Tree.Leaves.isMismatch, Tree.evaluate_explains
-/
import Rationale.Mapping.Stock
import Rationale.Proofs.Blame
import Rationale.Proofs.Origins

namespace Rationale

namespace Row

/-- What calls for an explanation: a failure, or the answer of a check of the tree that is not the
one expected and that the check knows how to explain. -/
def HasCause (settings : Settings) (tree : Tree) (row : Row) : Prop :=
  (∃ failure, row.actual.output = .thrown failure) ∨
    ∃ check, tree.Contains (.leaf check) ∧ row.IsOf settings check ∧ check.explainer.isSome ∧
      ∃ answer, row.actual.output = .value (.bool answer) ∧
        row.expected.output ≠ .value (.bool answer)

/-- The row shows a failure, and its detail tells of the failure and of the input of the row. -/
structure Reports (failure : Failure) (row : Row) : Prop where
  thrown : row.actual.output = .thrown failure
  detailed : ∃ value, row.actual.input = .value value ∧ row.actual.detail =
    some ("Input: " ++ value.display ++ "\nInput Type: " ++ value.typeName ++ "\n" ++
      failure.excerpt)

/-- From a row on, the trace reaches a row that is the same one or lies inside it, and goes on. -/
def Spans (row : Row) (after : List Row) (source : Row) (later : List Row) : Prop :=
  ∃ between, row :: after = between ++ source :: later ∧
    ∀ other ∈ (between ++ [source]).tail, row.level < other.level

@[simp] theorem isOf_atLevel_iff {settings : Settings} {check : Check} {level : Nat} {row : Row} :
    (row.atLevel level).IsOf settings check ↔ row.IsOf settings check := by
  constructor
  · rintro ⟨flipped, input, same⟩
    have back := congrArg (Row.atLevel row.level) same
    exact ⟨flipped, input, back⟩
  · rintro ⟨flipped, input, same⟩
    have moved := congrArg (Row.atLevel level) same
    exact ⟨flipped, input, moved⟩

@[simp] theorem hasCause_atLevel_iff {settings : Settings} {tree : Tree} {level : Nat} {row : Row} :
    (row.atLevel level).HasCause settings tree ↔ row.HasCause settings tree := by
  simp only [HasCause, isOf_atLevel_iff]
  rfl

end Row

/-!
### Details

A check has a detail for a failure, and for the wrong answer if it has an explanation; a mapping has
one for a failure.  The row of a part needs an explanation if the part has a detail that is kept.
-/

theorem Check.detail_ask_isSome_iff {check : Check} {wanted : Bool} {input : Option Value} :
    (check.ask wanted input).detail.isSome ↔
      (∃ failure, (check.ask wanted input).outcome.result = .thrown failure) ∨
        check.explainer.isSome ∧
          (check.ask wanted input).outcome.result = .returned (.bool !wanted) := by
  cases input with
  | none => simp [ask, Outcome.skipped]
  | some value =>
      rw [ask]
      cases check.test value with
      | error failure => simp [Attempt.failed, Outcome.thrown]
      | ok answer =>
          cases answer <;> cases wanted <;> simp [Outcome.returned, explain]

theorem Mapping.detail_attempt_isSome_iff {mapping : Mapping} {input : Option Value} :
    (mapping.attempt input).detail.isSome ↔
      ∃ failure, (mapping.attempt input).outcome.result = .thrown failure := by
  cases input with
  | none => simp [attempt, Outcome.skipped]
  | some value =>
      rw [attempt]
      cases mapping.apply value with
      | error failure => simp [Attempt.failed, Outcome.thrown]
      | ok result => simp [Outcome.returned]

section Drafts

variable {settings : Settings} {flipped : Bool} {draft : Draft} {attempt : Attempt}

theorem Draft.requiresExplanation_row (detailed : settings.suppressDetails = false) :
    (draft.row settings flipped attempt).requiresExplanation = attempt.detail.isSome := by
  simp [row, PendingRow.close, detailed]

theorem Draft.detail_of_requiresExplanation
    (explained : (draft.row settings flipped attempt).requiresExplanation = true) :
    attempt.detail.isSome := by
  cases detailed : settings.suppressDetails with
  | true => simp [row, PendingRow.close, detailed] at explained
  | false => rwa [requiresExplanation_row detailed] at explained

/-- On either side a row has a detail if and only if it needs an explanation. -/
theorem Draft.detail_isSome_row :
    (draft.row settings flipped attempt).expected.detail.isSome =
        (draft.row settings flipped attempt).requiresExplanation ∧
      (draft.row settings flipped attempt).actual.detail.isSome =
        (draft.row settings flipped attempt).requiresExplanation := by
  simp [row, PendingRow.close]

/-- Rows that diverge are never ignored. -/
theorem Draft.isMismatch_of_ignored
    (ignored : (draft.row settings flipped attempt).ignored = true) :
    (draft.row settings flipped attempt).isMismatch = false := by
  simp only [row, PendingRow.close, Bool.and_eq_true] at ignored
  simp only [Row.isMismatch, row, PendingRow.close, bne, ignored.2, Bool.not_true]

end Drafts

/-- A row that raised a failure reports it. -/
theorem Row.Raised.reports {settings : Settings} {failure : Failure} {row : Row}
    (raised : row.Raised settings failure) (detailed : settings.suppressDetails = false) :
    row.Reports failure ∧ row.requiresExplanation = true := by
  obtain ⟨draft, flipped, value, given, rfl⟩ := raised
  refine ⟨⟨rfl, value, ?_, ?_⟩, ?_⟩
  · simp [Draft.row, PendingRow.close, Recorder.pendingRow, given, Cell.ofInput]
  · simp [Draft.row, PendingRow.close, detailed, Attempt.failed, Detail.ofFailure]
  · rw [Draft.requiresExplanation_row detailed]
    rfl

/-- The row of a check that can explain itself needs to be explained if its answer is not the one
expected. -/
theorem Row.IsOf.requiresExplanation {settings : Settings} {check : Check} {row : Row}
    {answer : Bool} (isOf : row.IsOf settings check) (detailed : settings.suppressDetails = false)
    (explains : check.explainer.isSome) (given : row.actual.output = .value (.bool answer))
    (unexpected : row.expected.output ≠ .value (.bool answer)) :
    row.requiresExplanation = true := by
  obtain ⟨flipped, input, same⟩ := isOf
  rw [same] at given unexpected ⊢
  have result : (check.ask (!flipped) input).outcome.result = .returned (.bool answer) :=
    Cell.ofResult_eq_value_iff.mp given
  obtain rfl : answer = flipped := by
    cases answer <;> cases flipped <;> first | rfl | exact absurd rfl unexpected
  show ((Tree.draft input (.leaf check)).row settings answer
    (check.ask (!answer) input)).requiresExplanation = true
  rw [Draft.requiresExplanation_row detailed, Check.detail_ask_isSome_iff, Bool.not_not]
  exact Or.inr ⟨explains, result⟩

/-- From a row with its rows inside, the trace reaches the one that raised a failure. -/
theorem Forest.Raises.spans {settings : Settings} {failure : Failure} {row : Row} {inner : Forest}
    {level : Nat} {rest : List Row}
    (raises : (Forest.node row inner).Raises settings failure)
    (detailed : settings.suppressDetails = false) (next : (row.atLevel level).IsChildless rest) :
    ∃ source later,
      (row.atLevel level).Spans (inner.rows (level + 1) ++ rest) source later ∧
        source.IsChildless later ∧ source.Reports failure := by
  obtain ⟨above, below, source, shownAt, place, rfl, raised⟩ := raises.place level
  obtain ⟨between, later, listed, childless⟩ := Forest.rows_of_place place
  have listing : row.atLevel level :: (inner.rows (level + 1) ++ []) =
      between ++ source.atLevel shownAt :: ([] ++ later) := listed
  rw [List.append_nil, List.nil_append] at listing
  refine ⟨source.atLevel shownAt, later ++ rest, ⟨between, ?_, ?_⟩, ?_, ?_⟩
  · rw [← List.cons_append, listing, List.append_assoc, List.cons_append]
  · intro other member
    cases between with
    | nil => cases member
    | cons top between =>
        -- The first row listed is the outer one, so all that comes after it lies inside.
        have inside : inner.rows (level + 1) = between ++ source.atLevel shownAt :: later :=
          (List.cons.inj listing).2
        have deeper : other ∈ inner.rows (level + 1) := by
          rw [inside, List.append_cons]
          exact List.mem_append_left later member
        exact Forest.le_level_of_mem_rows deeper
  · refine childless.append fun other isNext => ?_
    have outer : other.level ≤ level := next other isNext
    have := place.level_eq
    omega
  · obtain ⟨thrown, reason⟩ := (raised.reports detailed).1
    exact ⟨thrown, reason⟩

namespace Tree

section Rows

variable {settings : Settings} {tree : Tree} {row : Row} {inner : Forest}

theorem Leaves.requiresExplanation_iff (leaves : Leaves settings tree row inner)
    (detailed : settings.suppressDetails = false) :
    row.requiresExplanation = true ↔ inner = .nil ∧ row.HasCause settings tree := by
  constructor
  · intro explained
    cases leaves with
    | @asked check flipped input contained =>
        refine ⟨rfl, ?_⟩
        rw [Draft.requiresExplanation_row detailed, Check.detail_ask_isSome_iff] at explained
        rcases explained with ⟨failure, thrown⟩ | ⟨explains, wrong⟩
        · exact Or.inl ⟨failure, Cell.ofResult_eq_thrown_iff.mpr thrown⟩
        · rw [Bool.not_not] at wrong
          refine Or.inr ⟨check, contained, ⟨flipped, input, rfl⟩, explains, flipped, ?_, ?_⟩
          · exact congrArg Cell.ofResult wrong
          · intro expected
            cases flipped <;> cases expected
    | @applied draft mapping flipped _ =>
        rw [Draft.requiresExplanation_row detailed, Mapping.detail_attempt_isSome_iff] at explained
        obtain ⟨failure, thrown⟩ := explained
        exact ⟨rfl, Or.inl ⟨failure, Cell.ofResult_eq_thrown_iff.mpr thrown⟩⟩
    | @refused draft flipped value failure _ _ => exact ⟨rfl, Or.inl ⟨failure, rfl⟩⟩
    | unasked =>
        rw [Draft.requiresExplanation_row detailed] at explained
        cases explained
    | concluded =>
        rw [Draft.requiresExplanation_row detailed] at explained
        cases explained
  · rintro ⟨rfl, ⟨failure, thrown⟩ | ⟨check, -, isOf, explains, answer, given, unexpected⟩⟩
    · -- With nothing inside, the failure can only have been raised by the row itself.
      rcases leaves.raises thrown with ⟨-, raised⟩ | inside | beside
      · exact (raised.reports detailed).2
      · exact inside.elim
      · exact beside.elim
    · exact isOf.requiresExplanation detailed explains given unexpected

theorem Leaves.isMismatch (leaves : Leaves settings tree row inner)
    (explained : row.requiresExplanation = true) : row.isMismatch = true := by
  cases leaves with
  | asked =>
      have detail := Draft.detail_of_requiresExplanation explained
      rcases Check.detail_ask_isSome_iff.mp detail with ⟨failure, thrown⟩ | ⟨-, wrong⟩
      · exact Draft.isMismatch_of_thrown thrown
      · rw [Bool.not_not] at wrong
        exact Draft.isMismatch_of_wrong rfl wrong
  | applied =>
      have detail := Draft.detail_of_requiresExplanation explained
      obtain ⟨failure, thrown⟩ := Mapping.detail_attempt_isSome_iff.mp detail
      exact Draft.isMismatch_of_thrown thrown
  | refused => exact Draft.isMismatch_of_thrown rfl
  | unasked => cases Draft.detail_of_requiresExplanation explained
  | concluded => cases Draft.detail_of_requiresExplanation explained

theorem Leaves.exists_isOf (leaves : Leaves settings tree row inner) (isLeaf : row.kind = .leaf) :
    ∃ check, tree.Contains (.leaf check) ∧ row.IsOf settings check := by
  cases leaves with
  | @asked check flipped input contained => exact ⟨check, contained, flipped, input, rfl⟩
  | applied isFunction =>
      cases isFunction.symm.trans isLeaf
  | refused takesApart _ =>
      rcases takesApart with kind | kind <;> cases kind.symm.trans isLeaf
  | unasked isQuantifier => cases isQuantifier.symm.trans isLeaf
  | concluded notLeaf => exact absurd isLeaf notLeaf

theorem Leaves.exists_draft (leaves : Leaves settings tree row inner) :
    ∃ (draft : Draft) (flipped : Bool) (attempt : Attempt),
      row = draft.row settings flipped attempt := by
  cases leaves <;> exact ⟨_, _, _, rfl⟩

theorem Leaves.detail_isSome (leaves : Leaves settings tree row inner) :
    row.expected.detail.isSome = row.requiresExplanation ∧
      row.actual.detail.isSome = row.requiresExplanation := by
  obtain ⟨draft, flipped, attempt, rfl⟩ := leaves.exists_draft
  exact Draft.detail_isSome_row

theorem Leaves.isMismatch_of_ignored (leaves : Leaves settings tree row inner)
    (ignored : row.ignored = true) : row.isMismatch = false := by
  obtain ⟨draft, flipped, attempt, rfl⟩ := leaves.exists_draft
  exact Draft.isMismatch_of_ignored ignored

end Rows

/-- In the trace of an evaluation that keeps its details, the rows that need an explanation are
exactly those around no other row that failed, or that are of a check which did not give the
expected answer and can explain that.  Each of them diverges, is not ignored, and has both its
details.  And every failure that a row shows, or that the evaluation comes to, is reported with its
input by a row around no other, which is the same row or lies inside it. -/
theorem evaluate_explains {settings : Settings} {tree : Tree} {input : Value}
    {evaluation : Evaluation} (detailed : settings.suppressDetails = false)
    (evaluated : tree.evaluate settings input = .ok evaluation) :
    (∀ before row after, evaluation.trace = before ++ row :: after →
      (row.requiresExplanation = true ↔ row.IsChildless after ∧ row.HasCause settings tree) ∧
      (row.kind = .leaf → ∃ check, tree.Contains (.leaf check) ∧ row.IsOf settings check) ∧
      (row.requiresExplanation = true → row.isMismatch = true ∧ row.ignored = false ∧
        row.expected.detail.isSome ∧ row.actual.detail.isSome) ∧
      ∀ failure, row.actual.output = .thrown failure → ∃ source later,
        row.Spans after source later ∧ source.IsChildless later ∧ source.Reports failure) ∧
    ∀ failure, evaluation.outcome.result = .thrown failure → ∃ before source later,
      evaluation.trace = before ++ source :: later ∧ source.IsChildless later ∧
        source.Reports failure ∧ source.requiresExplanation = true := by
  obtain ⟨account, evaluates, rfl⟩ := evaluate_ok evaluated
  constructor
  · intro before row after split
    obtain ⟨above, below, rest, place, -, rfl, next⟩ := Forest.place_of_rows split []
    obtain ⟨carried, level, rfl, leaves⟩ := evaluates.leaves.at_place place
    rw [Forest.isChildless_iff next, Row.hasCause_atLevel_iff]
    refine ⟨leaves.requiresExplanation_iff detailed, ?_, ?_, ?_⟩
    · exact fun isLeaf => by simpa using leaves.exists_isOf isLeaf
    · intro explained
      have diverges := leaves.isMismatch explained
      obtain ⟨expected, actual⟩ := leaves.detail_isSome
      refine ⟨diverges, ?_, expected.trans explained, actual.trans explained⟩
      by_contra ignored
      have agrees := leaves.isMismatch_of_ignored (eq_true_of_ne_false ignored)
      rw [diverges] at agrees
      cases agrees
    · intro failure thrown
      exact (leaves.raises thrown).spans detailed next
  · intro failure thrown
    obtain ⟨above, below, source, level, place, rfl, raised⟩ := (evaluates.raises thrown).place 0
    obtain ⟨before, later, listed, childless⟩ := Forest.rows_of_place place
    obtain ⟨⟨shown, reason⟩, explained⟩ := raised.reports detailed
    exact ⟨before, _, later, listed, childless, ⟨shown, reason⟩, explained⟩

/-- The failure of a mapping below a negation reaches the outcome, and the row of the mapping
explains it. -/
theorem evaluate_explains_of_length :
    let tree := negation (transform (.function .length) (.leaf .isNull))
    let failure := Failure.typeMismatch "Text" (.int 1)
    ∃ evaluation, tree.evaluate {} (.int 1) = .ok evaluation ∧
      evaluation.outcome.result = .thrown failure ∧
      (∃ before source later, evaluation.trace = before ++ source :: later ∧
        source.IsChildless later ∧ source.Reports failure ∧ source.requiresExplanation = true) ∧
      ∀ before row after, evaluation.trace = before ++ row :: after →
        (row.requiresExplanation = true ↔ row.IsChildless after ∧ row.HasCause {} tree) := by
  intro tree failure
  obtain ⟨evaluation, evaluated, thrown⟩ : ∃ evaluation, tree.evaluate {} (.int 1) =
    .ok evaluation ∧ evaluation.outcome.result = .thrown failure := ⟨_, rfl, rfl⟩
  clear_value tree
  obtain ⟨shown, reached⟩ := evaluate_explains rfl evaluated
  refine ⟨evaluation, evaluated, thrown, reached failure thrown, ?_⟩
  intro before row after split
  exact (shown before row after split).1

end Tree

end Rationale
