/-
Module: Rationale.Proofs.Shortcuts
Purpose: What a lazy junction comes to and leaves, measured against the eager junction of the same
  operands.
Main exports: upTo, visit_of_eager, visit_fault, Connective.conclude_upTo, Connective.Hastens,
  Tree.eval_lazily
-/
import Rationale.Check.Stock
import Rationale.Proofs.Agreement
import Rationale.Proofs.Shares

namespace Rationale

section Rounds

variable {α β : Type}

/-- The items up to the first that stops, and that one as well. -/
def upTo (stops : α → Bool) (items : List α) : List α :=
  items.take (items.findIdx stops + 1)

theorem upTo_cons_of_stop {stops : α → Bool} {item : α} (rest : List α)
    (stop : stops item = true) : upTo stops (item :: rest) = [item] := by
  simp [upTo, List.findIdx_cons, stop]

theorem upTo_cons_of_go {stops : α → Bool} {item : α} (rest : List α)
    (go : stops item = false) : upTo stops (item :: rest) = item :: upTo stops rest := by
  simp [upTo, List.findIdx_cons, go]

theorem map_upTo {stops : α → Bool} {other : β → Bool} {f : α → β} {items : List α}
    (same : ∀ item ∈ items, other (f item) = stops item) :
    (upTo stops items).map f = upTo other (items.map f) := by
  induction items with
  | nil => rfl
  | cons item rest ih =>
      have later := ih fun next member => same next (List.mem_cons_of_mem item member)
      have here := same item List.mem_cons_self
      cases stop : stops item with
      | true =>
          rw [upTo_cons_of_stop rest stop, List.map_cons, List.map_cons,
            upTo_cons_of_stop _ (here.trans stop), List.map_nil]
      | false =>
          rw [upTo_cons_of_go rest stop, List.map_cons, List.map_cons,
            upTo_cons_of_go _ (here.trans stop), later]

theorem Inquiry.subject_of_ask {inquiry : Inquiry α} {visit : Visit α}
    (asked : inquiry.ask = .ok visit) : visit.subject = inquiry.subject := by
  obtain ⟨account, -, answered⟩ := ok_of_bind asked
  obtain ⟨answer, -, done⟩ := ok_of_bind answered
  cases done
  rfl

/-- A part that cannot be asked in a round that stops early cannot be asked in the full round. -/
theorem visit_fault {stops : Option Bool → Bool} {inquiries : List (Inquiry α)} {fault : Fault}
    (failed : visit stops inquiries = .error fault) :
    visit (fun _ => false) inquiries = .error fault := by
  induction inquiries with
  | nil => cases failed
  | cons inquiry rest ih =>
      rw [visit_cons] at failed ⊢
      cases asked : inquiry.ask with
      | error first =>
          rw [asked] at failed
          exact failed
      | ok visited =>
          rw [asked, Except.bind] at failed
          cases stop : stops visited.answer with
          | true =>
              rw [stop, if_pos rfl] at failed
              cases failed
          | false =>
              cases later : visit stops rest with
              | ok visits =>
                  rw [stop, later] at failed
                  cases failed
              | error second =>
                  rw [stop, later] at failed
                  cases failed
                  simp [Except.bind, Except.map, ih later]

/-- A round that stops early asks the parts that the full round asks, up to the first that stops
it. -/
theorem visit_of_eager {inquiries : List (Inquiry α)} {visits : List (Visit α)}
    (stops : Option Bool → Bool) (visited : visit (fun _ => false) inquiries = .ok visits) :
    visit stops inquiries = .ok (upTo (fun visit => stops visit.answer) visits) := by
  induction inquiries generalizing visits with
  | nil =>
      cases visited
      rfl
  | cons inquiry rest ih =>
      rw [visit_cons] at visited ⊢
      obtain ⟨first, asked, run⟩ := ok_of_bind visited
      obtain ⟨later, further, rfl⟩ := ok_of_map run
      rw [asked, Except.bind]
      cases stop : stops first.answer with
      | true => rw [if_pos rfl, upTo_cons_of_stop later stop]
      | false => rw [if_neg Bool.false_ne_true, ih further, upTo_cons_of_go later stop, Except.map]

/-- The full round asks everybody. -/
theorem subjects_of_eager {inquiries : List (Inquiry α)} {visits : List (Visit α)}
    (visited : visit (fun _ => false) inquiries = .ok visits) :
    visits.map Visit.subject = inquiries.map Inquiry.subject := by
  induction inquiries generalizing visits with
  | nil =>
      cases visited
      rfl
  | cons inquiry rest ih =>
      rw [visit_cons] at visited
      obtain ⟨first, asked, run⟩ := ok_of_bind visited
      obtain ⟨later, further, rfl⟩ := ok_of_map run
      rw [List.map_cons, List.map_cons, ih further, Inquiry.subject_of_ask asked]

/-- A round that nothing stops is the full round. -/
theorem visit_eager_of_unstopped {stops : Option Bool → Bool} {inquiries : List (Inquiry α)}
    {visits : List (Visit α)} (visited : visit stops inquiries = .ok visits)
    (unstopped : ∀ visit ∈ visits, stops visit.answer = false) :
    visit (fun _ => false) inquiries = .ok visits := by
  induction inquiries generalizing visits with
  | nil => exact visited
  | cons inquiry rest ih =>
      rw [visit_cons] at visited ⊢
      obtain ⟨first, asked, run⟩ := ok_of_bind visited
      rw [asked, Except.bind]
      cases stop : stops first.answer with
      | true =>
          rw [stop, if_pos rfl] at run
          cases run
          exact absurd (unstopped first List.mem_cons_self) (by simp [stop])
      | false =>
          rw [stop, if_neg Bool.false_ne_true] at run
          obtain ⟨later, further, rfl⟩ := ok_of_map run
          have others := ih further fun visit member =>
            unstopped visit (List.mem_cons_of_mem first member)
          rw [if_neg Bool.false_ne_true, others, Except.map]

theorem answersOf_upTo (stops : Option Bool → Bool) (visits : List (Visit α)) :
    answersOf (upTo (fun visit => stops visit.answer) visits) = upTo stops (answersOf visits) :=
  map_upTo fun _ _ => rfl

end Rounds

/-!
### Answers

A lazy conjunction answers what the eager one answers, and it may answer false where the eager one
has no answer.  A lazy disjunction has no answer where the eager one may answer true, and otherwise
answers the same.
-/

section Answers

variable {answers : List (Option Bool)}

/-- A junction that stops early comes to what it would come to without stopping, unless it misses
something: a conjunction, an operand without answer after a false one, and a disjunction, a true
operand after one without answer. -/
theorem Connective.conclude_upTo (connective : Connective) (answers : List (Option Bool)) :
    let hasty := connective.conclude (upTo connective.settledBy answers)
    let thorough := connective.conclude answers
    thorough = hasty ∨ match connective with
      | .conjunction => hasty = some false ∧ thorough = none
      | .disjunction => hasty = none ∧ thorough = some true := by
  induction answers with
  | nil => exact .inl rfl
  | cons answer rest ih =>
      cases stop : connective.settledBy answer with
      | false =>
          obtain rfl : answer = some !connective.decisive := by simpa [settledBy] using stop
          rw [upTo_cons_of_go rest stop, conclude_cons_go, conclude_cons_go]
          exact ih
      | true =>
          -- The early form ends here; whether the full form differs is up to the rest.
          rw [upTo_cons_of_stop rest stop]
          cases connective with
          | conjunction =>
              cases answer with
              | none => exact .inl (by simp [conclude])
              | some given =>
                  cases given with
                  | true => cases stop
                  | false => by_cases undecided : none ∈ rest <;> simp [conclude, undecided]
          | disjunction =>
              cases answer with
              | none => by_cases settled : some true ∈ rest <;> simp [conclude, settled]
              | some given =>
                  cases given with
                  | false => cases stop
                  | true => exact .inl (by simp [conclude])

/-- What a conjunction that stops early comes to, and what one that does not. -/
structure Result.Conjoined (hasty thorough : Result Value) : Prop where
  of_thorough : ∀ answer, thorough = .returned (.bool answer) → hasty = .returned (.bool answer)
  of_true : hasty = .returned (.bool true) → thorough = .returned (.bool true)
  of_skipped : hasty = .skipped → thorough = .skipped
  of_false : hasty = .returned (.bool false) →
    thorough = .returned (.bool false) ∨ thorough = .skipped

/-- What a disjunction that stops early comes to, and what one that does not. -/
structure Result.Disjoined (hasty thorough : Result Value) : Prop where
  of_hasty : ∀ answer, hasty = .returned (.bool answer) → thorough = .returned (.bool answer)
  of_false : thorough = .returned (.bool false) → hasty = .returned (.bool false)
  of_skipped : hasty = .skipped → thorough = .skipped ∨ thorough = .returned (.bool true)

/-- What a junction that stops early comes to, and what one that does not. -/
def Connective.Hastens : Connective → (hasty thorough : Result Value) → Prop
  | .conjunction => Result.Conjoined
  | .disjunction => Result.Disjoined

theorem Connective.hastens (connective : Connective) (answers : List (Option Bool)) :
    connective.Hastens
      (Outcome.ofAnswer (connective.conclude (upTo connective.settledBy answers))).result
      (Outcome.ofAnswer (connective.conclude answers)).result := by
  have compared := connective.conclude_upTo answers
  cases connective with
  | conjunction =>
      rcases compared with same | ⟨hasty, thorough⟩
      · rw [same]
        exact ⟨fun _ => id, id, id, .inl⟩
      · rw [hasty, thorough]
        exact ⟨nofun, nofun, nofun, fun _ => .inr rfl⟩
  | disjunction =>
      rcases compared with same | ⟨hasty, thorough⟩
      · rw [same]
        exact ⟨fun _ => id, id, .inl⟩
      · rw [hasty, thorough]
        exact ⟨nofun, nofun, fun _ => .inr rfl⟩

/-- A conjunction that is true has been asked for true answers only. -/
theorem Connective.unsettled_of_conclude
    (holds : Connective.conjunction.conclude answers = some true) :
    ∀ answer ∈ answers, Connective.conjunction.settledBy answer = false := by
  intro answer member
  rw [conclude] at holds
  by_cases undecided : none ∈ answers
  · simp [undecided] at holds
  · simp only [List.contains_iff_mem, undecided, if_false, Option.some.injEq] at holds
    cases answer with
    | none => exact absurd member undecided
    | some given =>
        cases given with
        | true => rfl
        | false => simp [member] at holds

end Answers

namespace Tree

/-- A run that is aborted has the fault that the account says. -/
theorem account_of_eval_error {tree : Tree} {input : Option Value} {recorder after : Recorder}
    {fault : Fault} (aborted : tree.eval input recorder = .error fault after) :
    tree.account recorder.settings recorder.flipped input = .error fault := by
  cases given : tree.account recorder.settings recorder.flipped input with
  | ok account =>
      rw [eval_of_account_ok given] at aborted
      cases aborted
  | error other =>
      obtain ⟨-, left, failed, -⟩ := eval_of_account_error given
      rw [aborted] at failed
      cases failed
      rfl

section Runs

variable {connective : Connective} {lazily : Bool} {operands : List Tree} {input : Option Value}
  {recorder after : Recorder} {visits : List (Visit Tree)} {fault : Fault}

/-- The visits of a junction evaluated here to its operands. -/
def visitsFrom (connective : Connective) (lazily : Bool) (operands : List Tree)
    (input : Option Value) (recorder : Recorder) : Except Fault (List (Visit Tree)) :=
  visit (fun answer => lazily && connective.settledBy answer) (operands.map fun operand =>
    ⟨operand, operand.form, account recorder.settings operand recorder.flipped input⟩)

variable (connective lazily input recorder) in
theorem account_eq_visitsFrom (nonempty : operands ≠ []) :
    account recorder.settings (junction connective lazily operands) recorder.flipped input =
      (visitsFrom connective lazily operands input recorder).map fun visits =>
        .within recorder.settings recorder.flipped
          (draft input (.junction connective lazily operands))
          { outcome := .ofAnswer (connective.conclude (answersOf visits)) } (forestOf visits) :=
  account_junction_map nonempty

/-- A junction that gives an outcome appends its row and those of the operands visited. -/
theorem visitsFrom_of_eval {outcome : Outcome Value} (nonempty : operands ≠ [])
    (ended : (junction connective lazily operands).eval input recorder = .ok outcome after) :
    ∃ visits, visitsFrom connective lazily operands input recorder = .ok visits ∧
      outcome = .ofAnswer (connective.conclude (answersOf visits)) ∧
      recorder.Appends after
        (.ofJunction connective lazily recorder.level recorder.flipped input outcome ::
          (visits.map (Visit.share recorder.level id)).flatMap fun share =>
            share.rows.map (Row.deepen 1)) := by
  obtain ⟨account, given, rfl, rfl⟩ := account_of_eval_ok ended
  rw [account_eq_visitsFrom connective lazily input recorder nonempty] at given
  obtain ⟨visits, visited, rfl⟩ := ok_of_map given
  refine ⟨visits, visited, rfl, recorder.appends_of_rows ?_⟩
  rw [Account.rows_junction, rows_forestOf _ 1 id]
  rfl

theorem eval_of_visitsFrom (nonempty : operands ≠ [])
    (visited : visitsFrom connective lazily operands input recorder = .ok visits) :
    ∃ after, (junction connective lazily operands).eval input recorder =
      .ok (.ofAnswer (connective.conclude (answersOf visits))) after := by
  have given := account_eq_visitsFrom connective lazily input recorder nonempty
  rw [visited] at given
  exact ⟨_, eval_of_account_ok given⟩

theorem visitsFrom_of_eval_error (nonempty : operands ≠ [])
    (aborted : (junction connective lazily operands).eval input recorder = .error fault after) :
    visitsFrom connective lazily operands input recorder = .error fault := by
  have failed := account_of_eval_error aborted
  rw [account_eq_visitsFrom connective lazily input recorder nonempty] at failed
  cases visited : visitsFrom connective lazily operands input recorder with
  | ok visits =>
      rw [visited] at failed
      cases failed
  | error first =>
      rw [visited] at failed
      cases failed
      rfl

theorem eval_error_of_visitsFrom (nonempty : operands ≠ [])
    (failed : visitsFrom connective lazily operands input recorder = .error fault) :
    ∃ after, (junction connective lazily operands).eval input recorder = .error fault after := by
  have given := account_eq_visitsFrom connective lazily input recorder nonempty
  rw [failed] at given
  obtain ⟨-, after, aborted, -⟩ := eval_of_account_error given
  exact ⟨after, aborted⟩

/-- The lazy junction asks the operands that the eager one asks, up to the first that settles it. -/
theorem visitsFrom_lazily
    (visited : visitsFrom connective false operands input recorder = .ok visits) :
    visitsFrom connective true operands input recorder =
      .ok (upTo (fun visit => connective.settledBy visit.answer) visits) :=
  visit_of_eager connective.settledBy visited

theorem subjects_of_visitsFrom
    (visited : visitsFrom connective false operands input recorder = .ok visits) :
    visits.map Visit.subject = operands := by
  have everybody := subjects_of_eager visited
  rwa [List.map_map, Function.comp_def, List.map_id'] at everybody

theorem eval_true_iff (nonempty : operands ≠ []) :
    (∃ outcome after,
      (junction connective lazily operands).eval input recorder = .ok outcome after ∧
        outcome.result = .returned (.bool true)) ↔
      ∃ visits, visitsFrom connective lazily operands input recorder = .ok visits ∧
        connective.conclude (answersOf visits) = some true := by
  constructor
  · rintro ⟨outcome, after, ended, holds⟩
    obtain ⟨visits, visited, rfl, -⟩ := visitsFrom_of_eval nonempty ended
    refine ⟨visits, visited, ?_⟩
    cases concluded : connective.conclude (answersOf visits) with
    | none =>
        rw [concluded] at holds
        cases holds
    | some answer =>
        rw [concluded] at holds
        cases holds
        rfl
  · rintro ⟨visits, visited, holds⟩
    obtain ⟨after, ended⟩ := eval_of_visitsFrom nonempty visited
    refine ⟨_, after, ended, ?_⟩
    rw [holds]
    rfl

/-- A lazy conjunction comes to true just where the eager one does. -/
theorem conclude_visitsFrom_iff :
    (∃ visits, visitsFrom .conjunction true operands input recorder = .ok visits ∧
        Connective.conjunction.conclude (answersOf visits) = some true) ↔
      ∃ visits, visitsFrom .conjunction false operands input recorder = .ok visits ∧
        Connective.conjunction.conclude (answersOf visits) = some true := by
  constructor
  · rintro ⟨visits, visited, holds⟩
    refine ⟨visits, visit_eager_of_unstopped visited ?_, holds⟩
    intro visit member
    exact Connective.unsettled_of_conclude holds _ (List.mem_map_of_mem member)
  · rintro ⟨visits, visited, holds⟩
    refine ⟨_, visitsFrom_lazily visited, ?_⟩
    rw [answersOf_upTo]
    rcases Connective.conjunction.conclude_upTo (answersOf visits) with same | ⟨-, undecided⟩
    · rw [← same, holds]
    · rw [holds] at undecided
      cases undecided

end Runs

/-- A lazy junction and the eager junction of the same operands.  A fault that aborts the lazy form
aborts the eager form.  Where both succeed, the lazy form leaves the rows of the operands that the
eager form leaves, up to the first operand whose answer settles the junction, and comes to what such
a shortcut may come to.  The conjunctions are true on the same inputs. -/
theorem eval_lazily (connective : Connective) {operands : List Tree} (nonempty : operands ≠ [])
    (input : Option Value) (recorder : Recorder) :
    (∀ fault after,
      (junction connective true operands).eval input recorder = .error fault after →
        ∃ later,
          (junction connective false operands).eval input recorder = .error fault later) ∧
    (∀ outcome after other later,
      (junction connective true operands).eval input recorder = .ok outcome after →
      (junction connective false operands).eval input recorder = .ok other later →
        connective.Hastens outcome.result other.result ∧
        ∃ shares : List (Share Tree), shares.map Share.part = operands ∧
          (∀ share ∈ shares, recorder.Gains share.part input share.outcome share.rows) ∧
          recorder.Appends later
            (.ofJunction connective false recorder.level recorder.flipped input other ::
              shares.flatMap fun share => share.rows.map (Row.deepen 1)) ∧
          recorder.Appends after
            (.ofJunction connective true recorder.level recorder.flipped input outcome ::
              (upTo (fun share => connective.settledBy share.answer) shares).flatMap
                fun share => share.rows.map (Row.deepen 1))) ∧
    ((∃ outcome after, (and operands).eval input recorder = .ok outcome after ∧
        outcome.result = .returned (.bool true)) ↔
      ∃ outcome after, (allOf operands).eval input recorder = .ok outcome after ∧
        outcome.result = .returned (.bool true)) := by
  refine ⟨?aborts, ?succeeds, ?passes⟩
  case aborts =>
    intro fault after aborted
    exact eval_error_of_visitsFrom nonempty
      (visit_fault (visitsFrom_of_eval_error nonempty aborted))
  case succeeds =>
    intro outcome after other later hasty thorough
    obtain ⟨visits, visited, rfl, here⟩ := visitsFrom_of_eval nonempty thorough
    obtain ⟨fewer, shortened, rfl, there⟩ := visitsFrom_of_eval nonempty hasty
    have cut := visitsFrom_lazily visited
    rw [shortened] at cut
    cases cut
    obtain ⟨-, -, each⟩ := visit_ok visited
    refine ⟨?_, visits.map (Visit.share recorder.level id), ?_, ?_, here, ?_⟩
    · rw [answersOf_upTo]
      exact connective.hastens (answersOf visits)
    · rw [List.map_map]
      exact subjects_of_visitsFrom visited
    · intro share member
      obtain ⟨visit, isVisit, rfl⟩ := List.mem_map.mp member
      exact recorder.gains_of_account (each visit isVisit).1
    · rw [← map_upTo]
      · exact there
      · intro visit isVisit
        exact congrArg _ (Outcome.bool?_of_answer? (each visit isVisit).2)
  case passes =>
    rw [and, allOf, eval_true_iff nonempty, eval_true_iff nonempty]
    exact conclude_visitsFrom_iff

/-- A disjunction that is skipped where its second operand fails, and true where all are asked. -/
theorem eval_lazily_of_failing :
    let operands : List Tree := [.leaf .isNull, .leaf (.startsWith "a"), .leaf .isNotNull]
    let fresh : Recorder := { settings := {} }
    let input : Option Value := some (.int 1)
    operands ≠ [] ∧ ∃ outcome after other later,
      (junction .disjunction true operands).eval input fresh = .ok outcome after ∧
        (junction .disjunction false operands).eval input fresh = .ok other later ∧
        outcome.result = .skipped ∧ other.result = .returned (.bool true) ∧
        Connective.disjunction.Hastens outcome.result other.result ∧
        ∃ shares : List (Share Tree), shares.map Share.part = operands ∧
          fresh.Appends later (.ofJunction .disjunction false 0 false input other ::
            shares.flatMap fun share => share.rows.map (Row.deepen 1)) ∧
          fresh.Appends after (.ofJunction .disjunction true 0 false input outcome ::
            (upTo (fun share => Connective.disjunction.settledBy share.answer) shares).flatMap
              fun share => share.rows.map (Row.deepen 1)) := by
  intro operands fresh input
  have nonempty : operands ≠ [] := by simp [operands]
  obtain ⟨outcome, after, hasty, skipped⟩ : ∃ outcome after,
    (junction .disjunction true operands).eval input fresh = .ok outcome after ∧
      outcome.result = .skipped := ⟨_, _, rfl, rfl⟩
  obtain ⟨other, later, thorough, holds⟩ : ∃ outcome after,
    (junction .disjunction false operands).eval input fresh = .ok outcome after ∧
      outcome.result = .returned (.bool true) := ⟨_, _, rfl, rfl⟩
  clear_value operands
  obtain ⟨-, compared, -⟩ := eval_lazily .disjunction nonempty input fresh
  obtain ⟨hastens, shares, parts, -, there, here⟩ :=
    compared outcome after other later hasty thorough
  exact ⟨nonempty, outcome, after, other, later, hasty, thorough, skipped, holds, hastens, shares,
    parts, there, here⟩

end Tree

end Rationale
