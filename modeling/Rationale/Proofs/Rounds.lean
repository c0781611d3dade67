/-
Module: Rationale.Proofs.Rounds
Purpose: What a junction or a search comes to, it has from one of the parts visited.
Main exports: Connective.conclude_mem, Connective.conclude_of_undecided, searchOutcome_eq,
  searchOutcome_of_thrown
-/
import Rationale.Proofs.Account

namespace Rationale

theorem Connective.conclude_mem {answers : List (Option Bool)} (connective : Connective)
    (nonempty : answers ≠ []) : connective.conclude answers ∈ answers := by
  obtain ⟨first, isFirst⟩ := List.exists_mem_of_ne_nil answers nonempty
  by_cases undecided : none ∈ answers
  · cases connective with
    | conjunction => simp [Connective.conclude, undecided]
    | disjunction =>
        by_cases settled : some true ∈ answers
        · simp [Connective.conclude, settled]
        · simp [Connective.conclude, settled, undecided]
  · cases first with
    | none => exact absurd isFirst undecided
    | some answer =>
        cases connective with
        | conjunction =>
            by_cases settled : some false ∈ answers
            · simp [Connective.conclude, settled, undecided]
            · cases answer with
              | false => exact absurd isFirst settled
              | true => simpa [Connective.conclude, settled, undecided] using isFirst
        | disjunction =>
            by_cases settled : some true ∈ answers
            · simp [Connective.conclude, settled]
            · cases answer with
              | false => simpa [Connective.conclude, settled, undecided] using isFirst
              | true => exact absurd isFirst settled

/-- A junction of which no operand has an answer has none. -/
theorem Connective.conclude_of_undecided {answers : List (Option Bool)} (connective : Connective)
    (nonempty : answers ≠ []) (undecided : ∀ answer ∈ answers, answer = none) :
    connective.conclude answers = none :=
  undecided _ (connective.conclude_mem nonempty)

theorem searchOutcome_eq {α : Type} {visits : List (Visit α)} (cutOn default : Bool)
    (nonempty : visits ≠ []) :
    ∃ visit ∈ visits, searchOutcome cutOn default visits = match visit.answer with
      | none => visit.account.outcome
      | some answer => .returned (.bool (default != (answer == cutOn))) := by
  induction visits with
  | nil => exact absurd rfl nonempty
  | cons visit rest ih =>
      rw [searchOutcome]
      cases answered : visit.answer with
      | none => exact ⟨visit, by simp, by simp [answered]⟩
      | some answer =>
          by_cases found : answer = cutOn
          · refine ⟨visit, by simp, ?_⟩
            simp [answered, found]
          · have passed : (answer == cutOn) = false := by simpa using found
            cases rest with
            | nil =>
                refine ⟨visit, by simp, ?_⟩
                simp [answered, passed, searchOutcome]
            | cons next later =>
                obtain ⟨other, member, decides⟩ := ih (List.cons_ne_nil _ _)
                refine ⟨other, List.mem_cons_of_mem visit member, ?_⟩
                rw [← decides]
                simp [passed]

/-- A search that ends in a failure has met an item on which the predicate failed so. -/
theorem searchOutcome_of_thrown {α : Type} {visits : List (Visit α)} {cutOn default : Bool}
    {failure : Failure}
    (thrown : (searchOutcome cutOn default visits).result = .thrown failure) :
    ∃ visit ∈ visits, visit.account.outcome.result = .thrown failure := by
  by_cases unvisited : visits = []
  · subst unvisited
    cases thrown
  · obtain ⟨visit, member, decides⟩ := searchOutcome_eq cutOn default unvisited
    rw [decides] at thrown
    cases answered : visit.answer with
    | none =>
        rw [answered] at thrown
        exact ⟨visit, member, thrown⟩
    | some answer =>
        rw [answered] at thrown
        cases thrown

end Rationale
