/-
Module: Rationale.Proofs.Account
Purpose: What the evaluation of a tree gives and which rows it leaves, told without a recorder.
Main exports: Account, Account.within, Visit, Inquiry, visit, Tree.account, visit_ok
-/
import Rationale.Evaluation
import Rationale.Proofs.Forest

namespace Rationale

/-- What a part gives, and the rows that it leaves. -/
structure Account where
  outcome : Outcome Value
  forest : Forest
deriving Inhabited

/-- The outcome and the rows. -/
def Account.pair (account : Account) : Outcome Value × Forest :=
  (account.outcome, account.forest)

/-- The closed row of a part, as it stands at the outermost level. -/
def Draft.row (settings : Settings) (flipped : Bool) (draft : Draft) (attempt : Attempt) : Row :=
  PendingRow.close (Recorder.pendingRow { settings, flipped } draft) attempt.outcome
    (if settings.suppressDetails then none else attempt.detail)

section Cells

variable {settings : Settings} {flipped : Bool} {draft : Draft} {attempt : Attempt}

@[simp] theorem Draft.actual_row :
    (draft.row settings flipped attempt).actual.output = .ofResult attempt.outcome.result := rfl

theorem Draft.expected_row_of_boolean (boolean : draft.kind.isBoolean = true) :
    (draft.row settings flipped attempt).expected.output = .value (.bool !flipped) := by
  simp [row, PendingRow.close, Recorder.pendingRow, boolean, Recorder.wantedAnswer]

theorem Draft.expected_row_of_valued (valued : draft.kind.isBoolean = false) :
    (draft.row settings flipped attempt).expected.output =
      .expectedOf attempt.outcome.result := by
  simp [row, PendingRow.close, Recorder.pendingRow, valued]

theorem Draft.ignored_row :
    (draft.row settings flipped attempt).ignored =
      (draft.isTrivial && !attempt.outcome.isThrown &&
        !(draft.row settings flipped attempt).isMismatch) := by
  simp [row, PendingRow.close, Recorder.pendingRow, Row.isMismatch, bne]

end Cells

/-- The account of a part that leaves one row around those of its own parts. -/
def Account.within (settings : Settings) (flipped : Bool) (draft : Draft) (attempt : Attempt)
    (inner : Forest) : Account where
  outcome := attempt.outcome
  forest := .node (draft.row settings flipped attempt) inner

/-- Two stages one after the other: the second decides if the first returned a value. -/
def Account.andThen (first last : Account) : Account where
  outcome := if first.outcome.value?.isSome then last.outcome else first.outcome
  forest := first.forest ++ last.forest

theorem Account.outcome_andThen_of_none {first : Account} (last : Account)
    (stopped : first.outcome.value? = none) : (first.andThen last).outcome = first.outcome := by
  rw [andThen, stopped]
  rfl

theorem Account.outcome_andThen_of_some {first : Account} {next : Value} (last : Account)
    (produced : first.outcome.value? = some next) :
    (first.andThen last).outcome = last.outcome := by
  rw [andThen, produced]
  rfl

/-- The account of a stage with its outcome as coming from there. -/
def Account.withOrigin (origin : Origin) (account : Account) : Account :=
  { account with outcome := account.outcome.withOrigin origin }

theorem Outcome.value?_of_returned {outcome : Outcome Value} {value : Value}
    (returned : outcome.result = .returned value) : outcome.value? = some value := by
  rw [value?, returned]

theorem Outcome.value?_of_thrown {outcome : Outcome Value} {failure : Failure}
    (thrown : outcome.result = .thrown failure) : outcome.value? = none := by
  rw [value?, thrown]

theorem Outcome.value?_of_skipped {outcome : Outcome Value} (skipped : outcome.result = .skipped) :
    outcome.value? = none := by
  rw [value?, skipped]

/-- The outcome of a negation, from that of its target and the answer in it. -/
def Outcome.negated (outcome : Outcome Value) : Option Bool → Outcome Value
  | some answer => .returned (.bool !answer)
  | none => outcome

/-- A part that was asked for an answer. -/
structure Visit (α : Type) where
  subject : α
  account : Account
  answer : Option Bool
deriving Inhabited

/-- A part that may be asked for an answer, and what asking it comes to. -/
structure Inquiry (α : Type) where
  subject : α
  form : String
  result : Except Fault Account

theorem ok_of_bind {α β : Type} {first : Except Fault α} {next : α → Except Fault β} {result : β}
    (run : first >>= next = .ok result) :
    ∃ given, first = .ok given ∧ next given = .ok result := by
  cases first with
  | error fault => cases run
  | ok given => exact ⟨given, rfl, run⟩

theorem ok_of_map {α β : Type} {given : Except Fault α} {f : α → β} {result : β}
    (mapped : given.map f = .ok result) : ∃ found, given = .ok found ∧ f found = result := by
  cases given with
  | error fault => cases mapped
  | ok found => exact ⟨found, rfl, Except.ok.inj mapped⟩

section Visits

variable {α : Type}

/-- Asks one part after the other, up to the first whose answer stops the round. -/
def visit (stops : Option Bool → Bool) : List (Inquiry α) → Except Fault (List (Visit α))
  | [] => .ok []
  | inquiry :: rest => do
    let account ← inquiry.result
    let answer ← account.outcome.answer? inquiry.form
    if stops answer then return [⟨inquiry.subject, account, answer⟩]
    let visits ← visit stops rest
    return ⟨inquiry.subject, account, answer⟩ :: visits

/-- The answers of the parts asked. -/
def answersOf (visits : List (Visit α)) : List (Option Bool) :=
  visits.map Visit.answer

/-- The rows that the parts asked leave side by side. -/
def forestOf : List (Visit α) → Forest
  | [] => .nil
  | visit :: rest => visit.account.forest ++ forestOf rest

/-- The outcome of a search from the items asked: the first without an answer hands on its outcome,
and the first with the answer `cutOn` turns the default round. -/
def searchOutcome (cutOn default : Bool) : List (Visit α) → Outcome Value
  | [] => .returned (.bool default)
  | visit :: rest =>
    match visit.answer with
    | none => visit.account.outcome
    | some answer =>
      if answer == cutOn then .returned (.bool !default) else searchOutcome cutOn default rest

section Rounds

variable {stops : Option Bool → Bool} {inquiry : Inquiry α} {rest : List (Inquiry α)}
  {account : Account} {answer : Option Bool} {fault : Fault}

theorem visit_of_fault (failed : inquiry.result = .error fault) :
    visit stops (inquiry :: rest) = .error fault := by
  rw [visit, failed]
  rfl

theorem visit_of_refusal (given : inquiry.result = .ok account)
    (refused : account.outcome.answer? inquiry.form = .error fault) :
    visit stops (inquiry :: rest) = .error fault := by
  simp only [visit, given, refused, bind, Except.bind]

theorem visit_of_stop (given : inquiry.result = .ok account)
    (answered : account.outcome.answer? inquiry.form = .ok answer) (stop : stops answer = true) :
    visit stops (inquiry :: rest) = .ok [⟨inquiry.subject, account, answer⟩] := by
  simp only [visit, given, answered, stop, bind, Except.bind, if_true]
  rfl

theorem visit_of_go (given : inquiry.result = .ok account)
    (answered : account.outcome.answer? inquiry.form = .ok answer) (go : stops answer = false) :
    visit stops (inquiry :: rest) =
      (visit stops rest).map (⟨inquiry.subject, account, answer⟩ :: ·) := by
  simp only [visit, given, answered, go, bind, Except.bind]
  cases visit stops rest <;> rfl

end Rounds

/-- Those asked are the first ones in order, at least one if there is any, and each was asked and
answered as the round says. -/
theorem visit_ok {stops : Option Bool → Bool} {form : α → String}
    {ask : α → Except Fault Account} {subjects : List α} {visits : List (Visit α)}
    (asked : visit stops (subjects.map fun subject => ⟨subject, form subject, ask subject⟩) =
      .ok visits) :
    visits.map Visit.subject <+: subjects ∧ (subjects ≠ [] → visits ≠ []) ∧
      ∀ visit ∈ visits, ask visit.subject = .ok visit.account ∧
        visit.account.outcome.answer? (form visit.subject) = .ok visit.answer := by
  induction subjects generalizing visits with
  | nil =>
      cases asked
      simp
  | cons subject rest ih =>
      rw [List.map_cons] at asked
      cases given : ask subject with
      | error fault =>
          rw [visit_of_fault given] at asked
          cases asked
      | ok account =>
          cases answered : account.outcome.answer? (form subject) with
          | error fault =>
              rw [visit_of_refusal given answered] at asked
              cases asked
          | ok answer =>
              have here : ask subject = .ok account ∧
                  account.outcome.answer? (form subject) = .ok answer := ⟨given, answered⟩
              cases go : stops answer with
              | true =>
                  rw [visit_of_stop given answered go] at asked
                  cases asked
                  exact ⟨by simp, by simp, by simpa using here⟩
              | false =>
                  rw [visit_of_go given answered go] at asked
                  cases visited : visit stops
                      (rest.map fun subject => ⟨subject, form subject, ask subject⟩) with
                  | error fault =>
                      rw [visited] at asked
                      cases asked
                  | ok later =>
                      rw [visited] at asked
                      cases asked
                      obtain ⟨inOrder, -, each⟩ := ih visited
                      refine ⟨(List.prefix_cons_inj subject).mpr inOrder, by simp, ?_⟩
                      intro visit member
                      rcases List.mem_cons.mp member with rfl | further
                      · exact here
                      · exact each visit further

end Visits

namespace Tree

/-- What is known of the row of the topmost part when it is opened. -/
def draft (input : Option Value) : Tree → Draft
  | .leaf check => { kind := .leaf, form := check.name, input, isTrivial := check.isTrivial }
  | .junction connective lazily _ =>
    { kind := connective.kind, form := connective.form lazily, input }
  | .negation _ => { kind := .negation, form := "not", input }
  | .function head =>
    { kind := .function, form := head.name, input, isTrivial := head.isTrivial }
  | .chain head _ =>
    { kind := .function, form := head.name, input, continued := true, isTrivial := head.isTrivial }
  | .transform _ _ => { kind := .transform, form := "transform", input }
  | .quantifier _ cutOn default =>
    { kind := .quantifier, form := quantifierForm cutOn default, input }
  | .curried _ slot => { kind := .curried, form := curriedForm slot, input, isTrivial := true }

/-- What is known of the row of a checking stage when it is opened. -/
def checkDraft (input : Option Value) : Draft :=
  { kind := .check, form := "check", input }

/-- The account of a mapping stage, from that of the mapper. -/
def mappingStage (settings : Settings) (flipped : Bool) (draft : Draft) (mapping : Account) :
    Account :=
  .within settings flipped draft { outcome := mapping.outcome.withOrigin .transform } mapping.forest

/-- The account of a checking stage, from that of the checker.  Without an input it is skipped. -/
def checkingStage (settings : Settings) (flipped : Bool) (input : Option Value)
    (checking : Account) : Account :=
  .within settings flipped (checkDraft input)
    { outcome := if input.isSome then checking.outcome else .skipped } checking.forest

end Tree

/-- The account of a mapping that is applied in a row of its own. -/
def Mapping.account (settings : Settings) (flipped : Bool) (draft : Draft) (mapping : Mapping)
    (input : Option Value) : Account where
  outcome := (mapping.attempt input).outcome.withOrigin .head
  forest := .node (draft.row settings flipped (mapping.attempt input)) .nil

namespace Tree

mutual

/-- The account of a tree on an input, under a polarity.  An input that was never produced is
absent. -/
def account (settings : Settings) : Tree → (flipped : Bool) → Option Value → Except Fault Account
  | .leaf check, flipped, input =>
    .ok (.within settings flipped (draft input (.leaf check)) (check.ask (!flipped) input) .nil)
  | .junction connective lazily operands, flipped, input => do
    if operands.isEmpty then throw (.emptyJunction (connective.form lazily))
    let visits ← visit (fun answer => lazily && connective.settledBy answer)
      (accountEach settings operands flipped input)
    return .within settings flipped (draft input (.junction connective lazily operands))
      { outcome := .ofAnswer (connective.conclude (answersOf visits)) } (forestOf visits)
  | .negation target, flipped, input => do
    let inner ← account settings target (!flipped) input
    let answer ← inner.outcome.answer? target.form
    return .within settings flipped (draft input (.negation target))
      { outcome := inner.outcome.negated answer } inner.forest
  | .function head, flipped, input =>
    .ok (head.account settings flipped (draft input (.function head)) input)
  | .chain head tail, flipped, input => do
    let first := head.account settings flipped (draft input (.chain head tail)) input
    let last ← account settings tail flipped first.outcome.value?
    return first.andThen (last.withOrigin .tail)
  | .transform mapper checker, flipped, input =>
    if mapper.isIdentity then account settings checker flipped input
    else do
      let mapping ← account settings mapper flipped input
      let first := mappingStage settings flipped (draft input (.transform mapper checker)) mapping
      let checking ← account settings checker flipped first.outcome.value?
      return first.andThen (checkingStage settings flipped first.outcome.value? checking)
  | .quantifier predicate cutOn default, flipped, input =>
    let close := Account.within settings flipped (draft input (.quantifier predicate cutOn default))
    let inside := flipped != (cutOn == default)
    match input with
    | none => do
      let passed ← account settings predicate inside none
      return close { outcome := .skipped } passed.forest
    | some value =>
      match value.list? with
      | .ok items => do
        let visits ← visit (fun answer => answer != some !cutOn) (items.map fun item =>
          ⟨item, predicate.form, account settings predicate inside (some item)⟩)
        return close { outcome := searchOutcome cutOn default visits } (forestOf visits)
      | .error failure => .ok (close (.failed value failure) .nil)
  | .curried enclosed slot, flipped, input =>
    let close := Account.within settings flipped (draft input (.curried enclosed slot))
    match input with
    | none => do
      let inner ← account settings enclosed flipped none
      return close { outcome := inner.outcome } inner.forest
    | some value =>
      match value.slot? slot with
      | .ok content => do
        let inner ← account settings enclosed flipped (some content)
        return close { outcome := inner.outcome } inner.forest
      | .error failure => .ok (close (.failed value failure) .nil)

/-- The inquiries of several trees on one input. -/
def accountEach (settings : Settings) :
    List Tree → (flipped : Bool) → Option Value → List (Inquiry Tree)
  | [], _, _ => []
  | tree :: rest, flipped, input =>
    ⟨tree, tree.form, account settings tree flipped input⟩ ::
      accountEach settings rest flipped input

end

-- A junction without operands is refused, on whatever input.
example (settings : Settings) (connective : Connective) (lazily flipped : Bool)
    (input : Option Value) : account settings (.junction connective lazily []) flipped input =
      .error (.emptyJunction (connective.form lazily)) := by
  cbv

theorem accountEach_eq_map (settings : Settings) (trees : List Tree) (flipped : Bool)
    (input : Option Value) :
    accountEach settings trees flipped input =
      trees.map fun tree => ⟨tree, tree.form, account settings tree flipped input⟩ := by
  induction trees with
  | nil => rfl
  | cons tree rest ih => rw [accountEach, ih, List.map_cons]

end Tree

end Rationale
