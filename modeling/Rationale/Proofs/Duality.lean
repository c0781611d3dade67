/-
Module: Rationale.Proofs.Duality
Purpose: A negation may be taken inward: the negated lazy junction goes the way of the dual junction
  of the negations.
Main exports: Connective.dual, Visit.negated, Connective.conclude_dual, Tree.eval_deMorgan
-/
import Rationale.Check.Stock
import Rationale.Proofs.Agreement
import Rationale.Proofs.Shares

namespace Rationale

/-- The connective that the opposite answer settles. -/
def Connective.dual : Connective → Connective
  | .conjunction => .disjunction
  | .disjunction => .conjunction

theorem Connective.settledBy_dual (connective : Connective) (answer : Option Bool) :
    connective.dual.settledBy (answer.map not) = connective.settledBy answer := by
  cases connective <;> cases answer with
  | none => rfl
  | some given => cases given <;> rfl

/-- If only the last answer may settle a junction, the dual junction of the opposite answers comes
to the opposite. -/
theorem Connective.conclude_dual (connective : Connective) {answers : List (Option Bool)}
    (unsettled : ∀ answer ∈ answers.dropLast, connective.settledBy answer = false) :
    connective.dual.conclude (answers.map (·.map not)) = (connective.conclude answers).map not := by
  induction answers with
  | nil => cases connective <;> rfl
  | cons answer rest ih =>
      cases rest with
      | nil =>
          cases connective <;> cases answer with
          | none => rfl
          | some given => cases given <;> rfl
      | cons next later =>
          obtain rfl : answer = some !connective.decisive := by
            have goes := unsettled answer List.mem_cons_self
            simpa [settledBy] using goes
          -- Neither junction is settled before the last answer, so both go on to the rest.
          have inside := ih fun other member => unsettled other (List.mem_cons_of_mem _ member)
          have opposite : (some !connective.decisive).map not =
              some !connective.dual.decisive := by
            cases connective <;> rfl
          rw [List.map_cons, opposite, conclude_cons_go, conclude_cons_go, inside]

theorem Outcome.answer?_ofAnswer (form : String) (answer : Option Bool) :
    (ofAnswer answer).answer? form = .ok answer := by
  cases answer <;> rfl

theorem Outcome.negated_ofAnswer (answer : Option Bool) :
    (ofAnswer answer).negated answer = ofAnswer (answer.map not) := by
  cases answer <;> rfl

theorem Outcome.opposite_ofAnswer_not (answer : Option Bool) :
    (ofAnswer (answer.map not)).opposite = ofAnswer answer := by
  cases answer with
  | none => rfl
  | some given => cases given <;> rfl

section Rounds

variable {α β γ : Type} {settings : Settings} {flipped : Bool} {input : α → Option Value}
  {name : α → β}

/-- In a round that ends, no answer but the last stops it. -/
theorem visit_unsettled {stops : Option Bool → Bool} {inquiries : List (Inquiry α)}
    {visits : List (Visit α)} (visited : visit stops inquiries = .ok visits) :
    ∀ answer ∈ (answersOf visits).dropLast, stops answer = false := by
  induction inquiries generalizing visits with
  | nil =>
      cases visited
      simp [answersOf]
  | cons inquiry rest ih =>
      rw [visit_cons] at visited
      obtain ⟨first, -, run⟩ := ok_of_bind visited
      by_cases stop : stops first.answer
      · rw [if_pos stop] at run
        cases run
        simp [answersOf]
      · rw [if_neg stop] at run
        obtain ⟨later, further, rfl⟩ := ok_of_map run
        cases later with
        | nil => simp [answersOf]
        | cons next others =>
            intro answer member
            rcases List.mem_cons.mp member with rfl | inside
            · simpa using stop
            · exact ih further answer inside

/-- The visit to a negation, from that to its target. -/
def Visit.negated (settings : Settings) (flipped : Bool) (input : α → Option Value) (name : α → β)
    (visit : Visit α) : Visit β where
  subject := name visit.subject
  account := .within settings flipped
    { kind := .negation, form := "not", input := input visit.subject }
    { outcome := visit.account.outcome.negated visit.answer } visit.account.forest
  answer := visit.answer.map not

variable (input name) in
theorem ask_negation (tree : Tree) (subject : α) :
    (⟨name subject, (Tree.negation tree).form,
        (Tree.negation tree).account settings flipped (input subject)⟩ : Inquiry β).ask =
      (⟨subject, tree.form, tree.account settings (!flipped) (input subject)⟩ : Inquiry α).ask.map
        (Visit.negated settings flipped input name) := by
  rw [Inquiry.ask, Inquiry.ask]
  cases given : tree.account settings (!flipped) (input subject) with
  | error fault =>
      rw [Tree.account_negation_of_fault given]
      rfl
  | ok inner =>
      cases answered : inner.outcome.answer? tree.form with
      | error fault =>
          rw [Tree.account_negation_of_refusal given answered]
          simp only [bind, Except.bind, answered]
          rfl
      | ok answer =>
          have taken := Outcome.answer?_negated answered (Tree.negation tree).form
          rw [Tree.account_negation given answered]
          simp only [bind, Except.bind, answered, Account.within, taken]
          rfl

variable (input) in
/-- Negated parts leave the rows of the parts, those of each below a row of its negation. -/
theorem rows_forestOf_negated {visits : List (Visit α)} (level : Nat) (part : α → γ)
    (inputOf : γ → Option Value) (same : ∀ subject, inputOf (part subject) = input subject)
    (answered : ∀ visit ∈ visits, ∃ form,
      visit.account.outcome.answer? form = .ok visit.answer) :
    (forestOf (visits.map (Visit.negated settings flipped input name))).rows (level + 1) =
      (visits.map (Visit.share level part)).flatMap fun share =>
        .ofNegation (level + 1) flipped (inputOf share.part) share.outcome.opposite ::
          share.rows.map (Row.deepen 2) := by
  induction visits with
  | nil => rfl
  | cons visit rest ih =>
      have later := ih fun other member => answered other (List.mem_cons_of_mem visit member)
      obtain ⟨form, isAnswer⟩ := answered visit List.mem_cons_self
      have opposite := Outcome.result_negated isAnswer
      have row : Row.ofNegation (level + 1) flipped (input visit.subject)
            (visit.account.outcome.negated visit.answer) =
          .ofNegation (level + 1) flipped (input visit.subject) visit.account.outcome.opposite := by
        rw [Row.ofNegation, Row.ofNegation, opposite]
        rfl
      rw [List.map_cons, forestOf, Forest.rows_append, later, List.map_cons, List.flatMap_cons,
        Visit.share, same, Forest.map_deepen_rows, ← row]
      exact congrArg (· ++ _)
        (Account.rows_negation flipped (input visit.subject) (.function .identity) _ _ _)

end Rounds

namespace Tree

section Accounts

variable (settings : Settings) (connective : Connective) (flipped : Bool) {operands : List Tree}
  (input : Option Value)

/-- A negated lazy junction comes to the opposite of what the junction comes to. -/
theorem account_negation_junction (nonempty : operands ≠ []) :
    (negation (junction connective true operands)).account settings flipped input =
      (visit connective.settledBy (operands.map fun operand =>
        ⟨operand, operand.form, account settings operand (!flipped) input⟩)).map fun visits =>
          .within settings flipped (draft input (.negation (junction connective true operands)))
            { outcome := .ofAnswer ((connective.conclude (answersOf visits)).map not) }
            (Account.within settings (!flipped) (draft input (.junction connective true operands))
              { outcome := .ofAnswer (connective.conclude (answersOf visits)) }
              (forestOf visits)).forest := by
  cases visited : visit connective.settledBy (operands.map fun operand =>
      ⟨operand, operand.form, account settings operand (!flipped) input⟩) with
  | error fault =>
      refine account_negation_of_fault ?_
      rw [account_junction_map nonempty]
      exact congrArg (Except.map _) visited
  | ok visits =>
      have given : account settings (junction connective true operands) (!flipped) input =
          .ok (.within settings (!flipped) (draft input (.junction connective true operands))
            { outcome := .ofAnswer (connective.conclude (answersOf visits)) }
            (forestOf visits)) := by
        rw [account_junction_map nonempty]
        exact congrArg (Except.map _) visited
      rw [account_negation given (Outcome.answer?_ofAnswer _ _)]
      simp only [Account.within, Outcome.negated_ofAnswer]
      rfl

/-- The dual junction of the negated operands visits the same operands. -/
theorem account_junction_dual (nonempty : operands ≠ []) :
    (junction connective.dual true (operands.map negation)).account settings flipped input =
      (visit connective.settledBy (operands.map fun operand =>
        ⟨operand, operand.form, account settings operand (!flipped) input⟩)).map fun visits =>
          .within settings flipped
            (draft input (junction connective.dual true (operands.map negation)))
            { outcome := .ofAnswer ((connective.conclude (answersOf visits)).map not) }
            (forestOf (visits.map (Visit.negated settings flipped (fun _ => input) negation))) := by
  have same : visit connective.dual.settledBy (operands.map fun operand =>
        ⟨negation operand, (negation operand).form,
          (negation operand).account settings flipped input⟩) =
      (visit connective.settledBy (operands.map fun operand =>
        ⟨operand, operand.form, account settings operand (!flipped) input⟩)).map
        (·.map (Visit.negated settings flipped (fun _ => input) negation)) :=
    visit_map (fun operand _ => ask_negation (fun _ => input) negation operand operand)
      (fun visit => connective.settledBy_dual visit.answer)
  rw [account_junction_map (by simpa using nonempty), List.map_map]
  change (visit connective.dual.settledBy _).map _ = _
  rw [Function.comp_def, same]
  cases visited : visit connective.settledBy (operands.map fun operand =>
      ⟨operand, operand.form, account settings operand (!flipped) input⟩) with
  | error fault => rfl
  | ok visits =>
      have opposite := connective.conclude_dual (visit_unsettled visited)
      have answers : answersOf (visits.map (Visit.negated settings flipped (fun _ => input)
          negation)) = (answersOf visits).map (·.map not) := by
        simp [answersOf, Visit.negated]
      simp only [Except.map, answers, opposite]

end Accounts

/-- A negated lazy junction and the dual lazy junction of the negated operands give the same outcome
or are refused for the same fault.  They visit the same operands, and each operand leaves the same
rows in both, those that it leaves on its own under the other polarity, two levels further in.
Around these the first appends a row for the negation and one for the junction, and the second one
for the junction and one for each negation. -/
theorem eval_deMorgan (connective : Connective) {operands : List Tree} (nonempty : operands ≠ [])
    (input : Option Value) (recorder : Recorder) :
    match (negation (junction connective true operands)).eval input recorder,
      (junction connective.dual true (operands.map negation)).eval input recorder with
    | .ok outcome after, .ok other later =>
      outcome = other ∧ ∃ shares : List (Share Tree),
        shares.map Share.part <+: operands ∧
        (∀ share ∈ shares,
          recorder.flip.Gains share.part input share.outcome share.rows) ∧
        recorder.Appends after
          (.ofNegation recorder.level recorder.flipped input outcome ::
            .ofJunction connective true (recorder.level + 1) (!recorder.flipped) input
              outcome.opposite ::
            shares.flatMap fun share => share.rows.map (Row.deepen 2)) ∧
        recorder.Appends later
          (.ofJunction connective.dual true recorder.level recorder.flipped input other ::
            shares.flatMap fun share =>
              .ofNegation (recorder.level + 1) recorder.flipped input share.outcome.opposite ::
                share.rows.map (Row.deepen 2))
    | .error fault _, .error other _ => fault = other
    | _, _ => False := by
  have first := account_negation_junction recorder.settings connective recorder.flipped input
    nonempty
  have second := account_junction_dual recorder.settings connective recorder.flipped input nonempty
  cases visited : visit connective.settledBy (operands.map fun operand =>
      ⟨operand, operand.form,
        account recorder.settings operand (!recorder.flipped) input⟩) with
  | error fault =>
      rw [visited] at first second
      obtain ⟨-, after, aborted, -⟩ := eval_of_account_error first
      obtain ⟨-, later, alsoAborted, -⟩ := eval_of_account_error second
      rw [aborted, alsoAborted]
  | ok visits =>
      rw [visited, Except.map] at first second
      obtain ⟨inOrder, -, each⟩ := visit_ok visited
      have answered : ∀ visit ∈ visits, ∃ form,
          visit.account.outcome.answer? form = .ok visit.answer :=
        fun visit member => ⟨_, (each visit member).2⟩
      rw [eval_of_account_ok first, eval_of_account_ok second]
      refine ⟨rfl, visits.map (Visit.share recorder.level id), ?_, ?_, ?_, ?_⟩
      · rw [List.map_map]
        exact inOrder
      · intro share member
        obtain ⟨visit, isVisit, rfl⟩ := List.mem_map.mp member
        exact recorder.flip.gains_of_account (each visit isVisit).1
      · refine recorder.appends_of_rows ?_
        rw [Account.rows_negation, Account.rows_junction, Account.within,
          Outcome.opposite_ofAnswer_not, rows_forestOf _ 2 id]
      · refine recorder.appends_of_rows ?_
        rw [Account.rows_junction, rows_forestOf_negated (fun _ => input) _ id (fun _ => input)
          (fun _ => rfl) answered]
        rfl

/-- A conjunction whose second operand fails, and the disjunction of the negations, are skipped. -/
theorem eval_deMorgan_of_failing :
    let operands : List Tree := [.leaf .isNotNull, .leaf (.startsWith "a"), .leaf .isNull]
    let fresh : Recorder := { settings := {} }
    let input : Option Value := some (.int 1)
    operands ≠ [] ∧ ∃ after later,
      (negation (junction .conjunction true operands)).eval input fresh = .ok .skipped after ∧
        (junction .disjunction true (operands.map negation)).eval input fresh =
          .ok .skipped later ∧
        ∃ shares : List (Share Tree), shares.map Share.part <+: operands ∧
          fresh.Appends after
            (.ofNegation 0 false input .skipped ::
              .ofJunction .conjunction true 1 true input .skipped ::
              shares.flatMap fun share => share.rows.map (Row.deepen 2)) ∧
          fresh.Appends later
            (.ofJunction .disjunction true 0 false input .skipped ::
              shares.flatMap fun share =>
                .ofNegation 1 false input share.outcome.opposite ::
                  share.rows.map (Row.deepen 2)) := by
  intro operands fresh input
  have nonempty : operands ≠ [] := by simp [operands]
  obtain ⟨after, first⟩ : ∃ after,
    (negation (junction .conjunction true operands)).eval input fresh = .ok .skipped after :=
    ⟨_, rfl⟩
  -- Only the first form is run: that the second gives an outcome, and which, is the theorem's part.
  clear_value operands
  have alike := eval_deMorgan .conjunction nonempty input fresh
  rw [first] at alike
  cases second : (junction .disjunction true (operands.map negation)).eval input fresh with
  | error fault later =>
      rw [Connective.dual, second] at alike
      exact alike.elim
  | ok other later =>
      rw [Connective.dual, second] at alike
      obtain ⟨rfl, shares, inOrder, -, here, there⟩ := alike
      exact ⟨nonempty, after, later, first, rfl, shares, inOrder, here, there⟩

end Tree

end Rationale
