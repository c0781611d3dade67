/-
Module: Rationale.Proofs.Agreement
Purpose: The evaluation of a tree gives what the tree means.
Main exports: visit_junction, visit_search, Tree.account_none, Tree.account_some,
  Tree.evaluate_eq_meaning
-/
import Rationale.Check.Stock
import Rationale.Proofs.Following
import Rationale.Proofs.Meaning

namespace Rationale

/-!
### Visits

A round of visits gives what the answers of the parts say, whether the round is lazy or eager.
-/

theorem Outcome.answer?_eq_result (form : String) (outcome : Outcome Value) :
    outcome.answer? form = outcome.result.answer? form := by
  obtain ⟨result, origin⟩ := outcome
  cases result with
  | returned value => cases value <;> rfl
  | thrown failure => rfl
  | skipped => rfl

/-- What asking a part for an answer comes to. -/
def Inquiry.verdict {α : Type} (inquiry : Inquiry α) : Except Fault (Option Bool) :=
  inquiry.result.bind fun account => account.outcome.answer? inquiry.form

section Rounds

variable {α : Type} {inquiry : Inquiry α} {account : Account} {fault : Fault}

theorem Inquiry.verdict_of_fault (failed : inquiry.result = .error fault) :
    inquiry.verdict = .error fault := by
  rw [verdict, failed]
  rfl

theorem Inquiry.verdict_of_ok (given : inquiry.result = .ok account) :
    inquiry.verdict = account.outcome.answer? inquiry.form := by
  rw [verdict, given]
  rfl

theorem Connective.conclude_cons_go (connective : Connective) (answers : List (Option Bool)) :
    connective.conclude (some (!connective.decisive) :: answers) = connective.conclude answers := by
  cases connective <;> simp [Connective.conclude, Connective.decisive]

theorem visit_lazily (connective : Connective) (inquiries : List (Inquiry α)) :
    (visit connective.settledBy inquiries).map
        (fun visits => (Outcome.ofAnswer (connective.conclude (answersOf visits))).result) =
      Meaning.firstOther (!connective.decisive) (inquiries.map Inquiry.verdict) := by
  induction inquiries with
  | nil => cases connective <;> rfl
  | cons inquiry rest ih =>
      rw [List.map_cons]
      cases given : inquiry.result with
      | error fault =>
          rw [visit_of_fault given, Inquiry.verdict_of_fault given]
          rfl
      | ok account =>
          rw [Inquiry.verdict_of_ok given]
          cases answered : account.outcome.answer? inquiry.form with
          | error fault =>
              rw [visit_of_refusal given answered]
              rfl
          | ok answer =>
              cases go : connective.settledBy answer with
              | true =>
                  rw [visit_of_stop given answered go]
                  cases answer with
                  | none => cases connective <;> rfl
                  | some answer =>
                      obtain rfl : answer = connective.decisive := by
                        cases connective <;> cases answer <;> first | rfl | cases go
                      cases connective <;> rfl
              | false =>
                  obtain rfl : answer = some !connective.decisive := by
                    simpa [Connective.settledBy] using go
                  rw [visit_of_go given answered go, Meaning.firstOther_cons_go, ← ih]
                  cases visit connective.settledBy rest with
                  | error fault => rfl
                  | ok visits =>
                      show Except.ok (Outcome.ofAnswer (connective.conclude
                        (some (!connective.decisive) :: answersOf visits))).result = _
                      rw [Connective.conclude_cons_go]
                      rfl

theorem visit_eagerly (inquiries : List (Inquiry α)) :
    (visit (fun _ => false) inquiries).map answersOf =
      (inquiries.map Inquiry.verdict).mapM id := by
  induction inquiries with
  | nil => rfl
  | cons inquiry rest ih =>
      rw [List.map_cons, List.mapM_cons, ← ih]
      cases given : inquiry.result with
      | error fault =>
          rw [visit_of_fault given, Inquiry.verdict_of_fault given]
          rfl
      | ok account =>
          rw [Inquiry.verdict_of_ok given]
          cases answered : account.outcome.answer? inquiry.form with
          | error fault =>
              rw [visit_of_refusal given answered]
              rfl
          | ok answer =>
              rw [visit_of_go given answered rfl]
              cases visit (fun _ => false) rest <;> rfl

theorem Connective.conclude_conjunction (answers : List (Option Bool)) :
    (Outcome.ofAnswer (Connective.conjunction.conclude answers)).result =
      Meaning.allTrue answers := by
  rw [Connective.conclude, Meaning.allTrue]
  by_cases undecided : none ∈ answers
  · rw [if_pos (by simpa using undecided), if_pos undecided]
    rfl
  · have closed : (!answers.contains (some false)) =
        answers.all fun answer => answer == some true := by
      rw [Bool.eq_iff_iff, Bool.not_eq_true', List.all_eq_true, ← Bool.not_eq_true,
        List.contains_iff_mem]
      constructor
      · intro noFalse answer member
        cases answer with
        | none => exact absurd member undecided
        | some answer =>
            cases answer with
            | false => exact absurd member noFalse
            | true => rfl
      · intro allTrue member
        exact Bool.noConfusion (allTrue _ member)
    rw [if_neg (by simpa using undecided), if_neg undecided, closed]
    rfl

theorem Connective.conclude_disjunction (answers : List (Option Bool)) :
    (Outcome.ofAnswer (Connective.disjunction.conclude answers)).result =
      Meaning.someTrue answers := by
  rw [Connective.conclude, Meaning.someTrue]
  simp only [List.contains_iff_mem]
  split
  · rfl
  · split <;> rfl

/-- A round of visits to the operands of a junction gives what the junction makes of them. -/
theorem visit_junction (connective : Connective) (lazily : Bool) (inquiries : List (Inquiry α)) :
    (visit (fun answer => lazily && connective.settledBy answer) inquiries).map
        (fun visits => (Outcome.ofAnswer (connective.conclude (answersOf visits))).result) =
      Meaning.junction connective lazily (inquiries.map Inquiry.verdict) := by
  cases lazily with
  | true =>
      rw [show (fun answer => true && connective.settledBy answer) = connective.settledBy from rfl,
        visit_lazily]
      cases connective <;> rfl
  | false =>
      have eager := visit_eagerly inquiries
      rw [show (fun answer => false && connective.settledBy answer) = fun _ => false from rfl]
      cases connective with
      | conjunction =>
          rw [Meaning.junction, ← eager]
          cases visit (fun _ => false) inquiries with
          | error fault => rfl
          | ok visits => exact congrArg Except.ok (Connective.conclude_conjunction _)
      | disjunction =>
          rw [Meaning.junction, ← eager]
          cases visit (fun _ => false) inquiries with
          | error fault => rfl
          | ok visits => exact congrArg Except.ok (Connective.conclude_disjunction _)

/-- A round of visits to items gives what the search makes of them. -/
theorem visit_search (form : String) (cutOn default : Bool) (ask : α → Except Fault Account)
    (items : List α) :
    (visit (fun answer => answer != some !cutOn)
        (items.map fun item => ⟨item, form, ask item⟩)).map
        (fun visits => (searchOutcome cutOn default visits).result) =
      Meaning.search form cutOn default
        (items.map fun item => (ask item).map fun account => account.outcome.result) := by
  generalize same : (fun answer : Option Bool => answer != some !cutOn) = stops
  induction items with
  | nil => rfl
  | cons item rest ih =>
      rw [List.map_cons, List.map_cons]
      cases given : ask item with
      | error fault =>
          rw [visit_of_fault rfl]
          rfl
      | ok account =>
          have decided := account.outcome.answer?_eq_result form
          cases answered : account.outcome.answer? form with
          | error fault =>
              rw [answered] at decided
              rw [visit_of_refusal rfl answered]
              exact (Meaning.search_cons_refused decided.symm).symm
          | ok answer =>
              rw [answered] at decided
              cases go : stops answer with
              | true =>
                  rw [visit_of_stop rfl answered go]
                  cases answer with
                  | none => exact (Meaning.search_cons_none decided.symm).symm
                  | some answer =>
                      obtain rfl : answer = cutOn := by
                        rw [← same] at go
                        cases answer <;> cases cutOn <;> first | rfl | cases go
                      refine Eq.trans ?_ (Meaning.search_cons_found decided.symm).symm
                      simp [Except.map, searchOutcome, Outcome.returned]
              | false =>
                  obtain rfl : answer = some !cutOn := by
                    simpa [← same] using go
                  rw [visit_of_go rfl answered go]
                  refine Eq.trans ?_ (ih.trans (Meaning.search_cons_go decided.symm).symm)
                  cases visit stops _ with
                  | error fault => rfl
                  | ok visits => simp [Except.map, searchOutcome]

end Rounds

theorem Check.result_ask (check : Check) (wanted : Bool) (value : Value) :
    (check.ask wanted (some value)).outcome.result =
      .ofExcept ((check.test value).map Value.bool) := by
  rw [Check.ask]
  cases check.test value <;> rfl

theorem Mapping.result_attempt (mapping : Mapping) (value : Value) :
    (mapping.attempt (some value)).outcome.result = .ofExcept (mapping.apply value) := by
  rw [Mapping.attempt]
  cases mapping.apply value <;> rfl

/-- The result of a part, without the stage that it comes from. -/
def Account.result (account : Account) : Result Value :=
  account.outcome.result

namespace Tree

/-!
### Parts

On an absent input every part is skipped; on a value every part does what the tree means.
-/

/-- A junction makes of its operands what their results say. -/
theorem account_junction {settings : Settings} {connective : Connective} {lazily flipped : Bool}
    {operands : List Tree} {input : Option Value} (nonempty : operands ≠ []) :
    (account settings (.junction connective lazily operands) flipped input).map Account.result =
      Meaning.junction connective lazily (operands.map fun operand =>
        ((account settings operand flipped input).map Account.result).bind
          (Result.answer? operand.form)) := by
  have occupied : ¬ operands.isEmpty = true := by simpa using nonempty
  have verdicts : (accountEach settings operands flipped input).map Inquiry.verdict =
      operands.map fun operand =>
        ((account settings operand flipped input).map Account.result).bind
          (Result.answer? operand.form) := by
    rw [accountEach_eq_map, List.map_map]
    refine List.map_congr_left fun operand _ => ?_
    rw [Function.comp_apply, Inquiry.verdict]
    cases account settings operand flipped input with
    | error fault => rfl
    | ok inner => exact inner.outcome.answer?_eq_result operand.form
  rw [← verdicts, ← visit_junction, account, if_neg occupied]
  cases visit _ (accountEach settings operands flipped input) <;> rfl

/-- A tree whose input was never produced is skipped. -/
theorem account_none {tree : Tree} (whole : tree.HasOperands) (settings : Settings)
    (flipped : Bool) :
    (tree.account settings flipped none).map Account.result = .ok .skipped := by
  induction tree generalizing flipped with
  | leaf check => rfl
  | junction connective lazily operands ih =>
      rw [account_junction whole.ne_nil]
      have skipped : (operands.map fun operand =>
          ((account settings operand flipped none).map Account.result).bind
            (Result.answer? operand.form)) =
          List.replicate operands.length (.ok none) := by
        rw [List.map_eq_replicate_iff]
        intro operand member
        rw [ih operand member (whole.part member) flipped]
        rfl
      rw [skipped]
      cases operands with
      | nil => exact absurd rfl whole.ne_nil
      | cons operand rest => exact Meaning.junction_replicate connective lazily rest.length
  | negation target ih =>
      obtain ⟨inner, evaluated, skipped⟩ := ok_of_map (ih (whole.part (by simp [parts])) (!flipped))
      have unanswered : inner.outcome.answer? target.form = .ok none := by
        rw [Outcome.answer?_eq_result, ← Account.result, skipped]
        rfl
      rw [account, evaluated]
      simp only [bind, Except.bind, unanswered]
      exact congrArg Except.ok skipped
  | function head => rfl
  | chain head tail ih =>
      obtain ⟨last, evaluated, -⟩ := ok_of_map (ih (whole.part (by simp [parts])) flipped)
      have unmapped : (head.account settings flipped (draft none (.chain head tail))
        none).outcome.value? = none := rfl
      rw [account, unmapped, evaluated]
      rfl
  | transform mapper checker mapperIH checkerIH =>
      have checkerWhole : checker.HasOperands := whole.part (by simp [parts])
      by_cases same : mapper.isIdentity
      · rw [account, if_pos same]
        exact checkerIH checkerWhole flipped
      · obtain ⟨mapping, mapped, skipped⟩ := ok_of_map (mapperIH (whole.part (by simp [parts]))
          flipped)
        obtain ⟨checking, checked, -⟩ := ok_of_map (checkerIH checkerWhole flipped)
        have unmapped : (mappingStage settings flipped (draft none (.transform mapper checker))
            mapping).outcome.value? = none :=
          Outcome.value?_of_skipped skipped
        rw [account, if_neg same, mapped]
        simp only [bind, Except.bind, unmapped, checked]
        rw [Account.andThen, unmapped]
        exact congrArg Except.ok skipped
  | quantifier predicate cutOn default ih =>
      obtain ⟨passed, evaluated, -⟩ := ok_of_map (ih (whole.part (by simp [parts]))
        (flipped != (cutOn == default)))
      rw [account]
      simp only [evaluated]
      rfl
  | curried enclosed slot ih =>
      obtain ⟨inner, evaluated, skipped⟩ := ok_of_map (ih (whole.part (by simp [parts])) flipped)
      rw [account, evaluated]
      exact congrArg Except.ok skipped

theorem eq_identity_of_isIdentity {tree : Tree} (same : tree.isIdentity = true) :
    tree = .function .identity := by
  cases tree with
  | function head =>
      cases head with
      | identity => rfl
      | named name apply isTrivial => cases same
  | _ => cases same

/-- On a value the account of a tree gives what the tree means. -/
theorem account_some {tree : Tree} (whole : tree.HasOperands) (settings : Settings)
    (flipped : Bool) (value : Value) :
    (tree.account settings flipped (some value)).map Account.result = tree.meaning value := by
  induction tree generalizing flipped value with
  | leaf check => exact congrArg Except.ok (check.result_ask (!flipped) value)
  | junction connective lazily operands ih =>
      rw [account_junction whole.ne_nil, meaning, verdicts_eq_map]
      congr 1
      refine List.map_congr_left fun operand member => ?_
      rw [ih operand member (whole.part member)]
  | negation target ih =>
      rw [account, meaning, ← ih (whole.part (by simp [parts])) (!flipped)]
      cases account settings target (!flipped) (some value) with
      | error fault => rfl
      | ok inner =>
          have decided : inner.result.answer? target.form = inner.outcome.answer? target.form :=
            (inner.outcome.answer?_eq_result target.form).symm
          simp only [bind, Except.bind, Except.map, decided]
          cases inner.outcome.answer? target.form with
          | error fault => rfl
          | ok answer => cases answer <;> rfl
  | function head => exact congrArg Except.ok (head.result_attempt value)
  | chain head tail ih =>
      have tailWhole : tail.HasOperands := whole.part (by simp [parts])
      let first :=
        head.account settings flipped (draft (some value) (.chain head tail)) (some value)
      have result : first.outcome.result = .ofExcept (head.apply value) :=
        head.result_attempt value
      show (account settings tail flipped first.outcome.value? >>= _).map _ = _
      rw [meaning]
      cases applied : head.apply value with
      | error failure =>
          rw [applied] at result
          have stopped : first.outcome.value? = none := Outcome.value?_of_thrown result
          obtain ⟨last, evaluated, -⟩ := ok_of_map (account_none tailWhole settings flipped)
          rw [stopped, evaluated]
          show Except.ok (first.andThen (last.withOrigin .tail)).outcome.result = _
          rw [Account.outcome_andThen_of_none _ stopped, result]
          rfl
      | ok next =>
          rw [applied] at result
          have produced : first.outcome.value? = some next := Outcome.value?_of_returned result
          show _ = meaning tail next
          rw [produced, ← ih tailWhole flipped]
          cases account settings tail flipped (some next) with
          | error fault => rfl
          | ok last =>
              show Except.ok (first.andThen (last.withOrigin .tail)).outcome.result = _
              rw [Account.outcome_andThen_of_some _ produced]
              rfl
  | transform mapper checker mapperIH checkerIH =>
      have checkerWhole : checker.HasOperands := whole.part (by simp [parts])
      rw [account, meaning]
      by_cases same : mapper.isIdentity
      · rw [if_pos same, eq_identity_of_isIdentity same]
        exact checkerIH checkerWhole flipped value
      · rw [if_neg same, ← mapperIH (whole.part (by simp [parts])) flipped]
        cases account settings mapper flipped (some value) with
        | error fault => rfl
        | ok mapping =>
            obtain ⟨⟨result, origin⟩, forest⟩ := mapping
            cases result with
            | returned next =>
                show _ = meaning checker next
                rw [← checkerIH checkerWhole flipped]
                show (account settings checker flipped (some next) >>= _).map _ = _
                cases account settings checker flipped (some next) <;> rfl
            | _ =>
                obtain ⟨checking, checked, -⟩ :=
                  ok_of_map (account_none checkerWhole settings flipped)
                show (account settings checker flipped none >>= _).map _ = _
                rw [checked]
                rfl
  | quantifier predicate cutOn default ih =>
      cases value with
      | list items =>
          let ask (item : Value) :=
            account settings predicate (flipped != (cutOn == default)) (some item)
          have results : items.map (meaning predicate) =
              items.map fun item => (ask item).map Account.result :=
            List.map_congr_left fun item _ => (ih (whole.part (by simp [parts])) _ item).symm
          have searched := visit_search predicate.form cutOn default ask items
          rw [account, meaning, results]
          refine Eq.trans ?_ searched
          show (visit _ (items.map fun item => ⟨item, predicate.form, ask item⟩) >>= _).map _ = _
          cases visit _ (items.map fun item => (⟨item, predicate.form, ask item⟩ : Inquiry Value))
            <;> rfl
      | _ => rfl
  | curried enclosed slot ih =>
      rw [account, meaning]
      cases value.slot? slot with
      | error failure => rfl
      | ok content =>
          show _ = meaning enclosed content
          rw [← ih (whole.part (by simp [parts])) flipped]
          show (account settings enclosed flipped (some content) >>= _).map _ = _
          cases account settings enclosed flipped (some content) <;> rfl

/-- Evaluating a tree in which no junction lacks operands gives what the tree means, or the fault
that it means, under all settings. -/
theorem evaluate_eq_meaning {tree : Tree} (whole : tree.HasOperands) (settings : Settings)
    (input : Value) :
    (tree.evaluate settings input).map (fun evaluation => evaluation.outcome.result) =
      tree.meaning input := by
  rw [evaluate_eq_account, validate_eq_ok_iff.mpr whole, ← account_some whole settings false]
  cases tree.account settings false (some input) <;> rfl

theorem evaluate_eq_meaning_of_unsettled :
    HasOperands (anyOf [.leaf .isTrue, noneMatch (.leaf .isNull)]) ∧
      (evaluate {} (anyOf [.leaf .isTrue, noneMatch (.leaf .isNull)]) (.bool false)).map
        (fun evaluation => evaluation.outcome.result) = .ok .skipped := by
  have whole : HasOperands (anyOf [.leaf .isTrue, noneMatch (.leaf .isNull)]) :=
    validate_eq_ok_iff.mp rfl
  exact ⟨whole, (evaluate_eq_meaning whole {} (.bool false)).trans rfl⟩

end Tree

end Rationale
