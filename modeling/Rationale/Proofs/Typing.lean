/-
Module: Rationale.Proofs.Typing
Purpose: The only faults that a tree can mean are missing answers, and trees whose parts answer
  where they are asked mean none.
Main exports: Result.Answers, Tree.answers_of_meaning, Tree.Misses, Tree.meaning_error,
  Tree.meaning_answers, Tree.account_answers
-/
import Rationale.Proofs.Agreement

namespace Rationale

/-- The result can be taken for an answer. -/
def Result.Answers (result : Result Value) : Prop :=
  ∀ form, ∃ answer, result.answer? form = .ok answer

/-!
### Missing answers

In a tree with operands throughout, a fault arises only where a part returned something other than
the answer it was asked for.  A part that answers by its shape never does.
-/

theorem Result.answer?_error {form : String} {result : Result Value} {fault : Fault}
    (refused : result.answer? form = .error fault) :
    ∃ got, result = .returned got ∧ (∀ answer, got ≠ .bool answer) ∧
      fault = .notBoolean form got.typeName := by
  cases result with
  | thrown failure => cases refused
  | skipped => cases refused
  | returned got =>
      cases got with
      | bool answer => cases refused
      | _ =>
          refine ⟨_, rfl, ?_, (Except.error.inj refused).symm⟩
          simp

theorem Result.Answers.of_none {form : String} {result : Result Value}
    (unanswered : result.answer? form = .ok none) : result.Answers := by
  cases result with
  | thrown failure => exact fun _ => ⟨_, rfl⟩
  | skipped => exact fun _ => ⟨_, rfl⟩
  | returned got => cases got <;> cases unanswered

theorem Result.answers_bool (answer : Bool) :
    (Result.returned (Value.bool answer)).Answers :=
  fun _ => ⟨some answer, rfl⟩

theorem Result.answers_thrown (failure : Failure) : (Result.thrown failure).Answers :=
  fun _ => ⟨none, rfl⟩

theorem Result.answers_skipped : Result.skipped.Answers :=
  fun _ => ⟨none, rfl⟩

namespace Meaning

variable {verdicts : List (Except Fault (Option Bool))} {fault : Fault} {result : Result Value}

theorem mem_of_mapM_id_error (failed : verdicts.mapM id = .error fault) :
    .error fault ∈ verdicts := by
  induction verdicts with
  | nil => cases failed
  | cons verdict rest ih =>
      cases verdict with
      | error other =>
          cases failed
          exact List.mem_cons_self
      | ok answer =>
          rw [List.mapM_cons] at failed
          cases later : rest.mapM id with
          | ok answers =>
              rw [later] at failed
              cases failed
          | error other =>
              rw [later] at failed
              cases failed
              exact List.mem_cons_of_mem _ (ih later)

theorem mem_of_firstOther_error {go : Bool} (failed : firstOther go verdicts = .error fault) :
    .error fault ∈ verdicts := by
  rw [firstOther] at failed
  cases found : verdicts.find? fun verdict => !isAnswer go verdict with
  | none =>
      rw [found] at failed
      cases failed
  | some verdict =>
      rw [found] at failed
      have member := List.mem_of_find?_eq_some found
      rcases verdict with other | _ | answer
      · cases failed
        exact member
      · cases failed
      · cases failed

/-- A junction is at fault only for a fault of an operand. -/
theorem mem_of_junction_error {connective : Connective} {lazily : Bool}
    (failed : junction connective lazily verdicts = .error fault) : .error fault ∈ verdicts := by
  have eager : ∀ conclude : List (Option Bool) → Result Value,
      (verdicts.mapM id).map conclude = .error fault → .error fault ∈ verdicts := by
    intro conclude aborted
    apply mem_of_mapM_id_error
    cases collected : verdicts.mapM id with
    | ok answers =>
        rw [collected] at aborted
        cases aborted
    | error other =>
        rw [collected] at aborted
        cases aborted
        rfl
  cases lazily with
  | true => cases connective <;> exact mem_of_firstOther_error failed
  | false => cases connective <;> exact eager _ failed

theorem allTrue_answers (answers : List (Option Bool)) : (allTrue answers).Answers := by
  intro form
  rw [allTrue]
  by_cases undecided : none ∈ answers
  · rw [if_pos undecided]
    exact ⟨_, rfl⟩
  · rw [if_neg undecided]
    exact ⟨_, rfl⟩

theorem someTrue_answers (answers : List (Option Bool)) : (someTrue answers).Answers := by
  intro form
  rw [someTrue]
  split
  · exact ⟨_, rfl⟩
  · split <;> exact ⟨_, rfl⟩

theorem junction_ok_answers {connective : Connective} {lazily : Bool}
    (joined : junction connective lazily verdicts = .ok result) : result.Answers := by
  have lazy : ∀ go, firstOther go verdicts = .ok result → result.Answers := by
    intro go first
    rw [firstOther] at first
    split at first <;> cases first
    · exact Result.answers_bool go
    · exact Result.answers_bool (!go)
    · exact Result.answers_skipped
  cases lazily with
  | true => cases connective <;> exact lazy _ joined
  | false =>
      cases connective with
      | conjunction =>
          obtain ⟨answers, -, rfl⟩ := ok_of_map joined
          exact allTrue_answers answers
      | disjunction =>
          obtain ⟨answers, -, rfl⟩ := ok_of_map joined
          exact someTrue_answers answers

variable {form : String} {cutOn default : Bool} {results : List (Except Fault (Result Value))}

/-- A search is at fault only for a fault of the predicate, or where it gave no answer. -/
theorem search_error (failed : search form cutOn default results = .error fault) :
    .error fault ∈ results ∨
      ∃ found, .ok found ∈ results ∧ found.answer? form = .error fault := by
  rw [search] at failed
  cases stop : results.find? fun result =>
      !isAnswer (!cutOn) (result.bind (Result.answer? form)) with
  | none =>
      rw [stop] at failed
      cases failed
  | some given =>
      rw [stop] at failed
      have member := List.mem_of_find?_eq_some stop
      cases given with
      | error other =>
          cases failed
          exact .inl member
      | ok found =>
          simp only [bind, Except.bind] at failed
          cases answered : found.answer? form with
          | error other =>
              rw [answered] at failed
              cases failed
              exact .inr ⟨found, member, answered⟩
          | ok answer =>
              rw [answered] at failed
              cases answer <;> cases failed

theorem search_ok_answers (searched : search form cutOn default results = .ok result) :
    result.Answers := by
  rw [search] at searched
  cases stop : results.find? fun result =>
      !isAnswer (!cutOn) (result.bind (Result.answer? form)) with
  | none =>
      rw [stop] at searched
      cases searched
      exact Result.answers_bool default
  | some given =>
      rw [stop] at searched
      obtain ⟨found, -, searched⟩ := ok_of_bind searched
      cases answered : found.answer? form with
      | error fault =>
          rw [answered] at searched
          cases searched
      | ok answer =>
          rw [answered] at searched
          cases answer with
          | some answer =>
              cases searched
              exact Result.answers_bool (!default)
          | none =>
              cases searched
              exact .of_none answered

end Meaning

namespace Tree

/-- Whatever the parts do, a tree that answers by its shape returns nothing but an answer. -/
theorem answers_of_meaning {tree : Tree} {value : Value} {result : Result Value}
    (answering : tree.answers = true) (means : tree.meaning value = .ok result) :
    result.Answers := by
  induction tree generalizing value with
  | leaf check =>
      rw [meaning] at means
      cases means
      cases check.test value with
      | error failure => exact Result.answers_thrown _
      | ok answer => exact Result.answers_bool answer
  | junction connective lazily operands ih => exact Meaning.junction_ok_answers means
  | negation target ih =>
      rw [meaning] at means
      obtain ⟨given, -, means⟩ := ok_of_bind means
      obtain ⟨answer, answered, means⟩ := ok_of_bind means
      cases answer with
      | some answer =>
          cases means
          exact Result.answers_bool (!answer)
      | none =>
          cases means
          exact .of_none answered
  | function head => cases answering
  | chain head tail ih =>
      rw [meaning] at means
      cases applied : head.apply value with
      | ok next =>
          rw [applied] at means
          exact ih answering means
      | error failure =>
          rw [applied] at means
          cases means
          exact Result.answers_thrown _
  | transform mapper checker mapperIH checkerIH =>
      rw [meaning] at means
      obtain ⟨mapped, -, means⟩ := ok_of_bind means
      cases mapped with
      | returned next => exact checkerIH answering means
      | thrown failure =>
          cases means
          exact Result.answers_thrown _
      | skipped =>
          cases means
          exact Result.answers_skipped
  | quantifier predicate cutOn default ih =>
      cases value with
      | list items => exact Meaning.search_ok_answers means
      | _ =>
          cases means
          exact Result.answers_thrown _
  | curried enclosed slot ih =>
      rw [meaning] at means
      cases found : value.slot? slot with
      | ok content =>
          rw [found] at means
          exact ih answering means
      | error failure =>
          rw [found] at means
          cases means
          exact Result.answers_thrown _

/-- The fault names a part that was asked for an answer, need not give one by its shape, and
returned something else. -/
def Misses (tree : Tree) (fault : Fault) : Prop :=
  ∃ holder question got, tree.Contains holder ∧ question ∈ holder.asked ∧
    question.answers = false ∧ (∀ answer, got ≠ Value.bool answer) ∧
    fault = .notBoolean question.form got.typeName

theorem Misses.within {tree part : Tree} {fault : Fault} (isPart : part ∈ tree.parts)
    (misses : part.Misses fault) : tree.Misses fault := by
  obtain ⟨holder, question, got, contained, rest⟩ := misses
  exact ⟨holder, question, got, .within isPart contained, rest⟩

theorem Misses.of_refusal {tree question : Tree} {value : Value} {result : Result Value}
    {fault : Fault} (isAsked : question ∈ tree.asked) (means : question.meaning value = .ok result)
    (refused : result.answer? question.form = .error fault) : tree.Misses fault := by
  obtain ⟨got, -, noAnswer, named⟩ := Result.answer?_error refused
  refine ⟨tree, question, got, .self, isAsked, ?_, noAnswer, named⟩
  rw [Bool.eq_false_iff]
  intro answering
  obtain ⟨answer, answered⟩ := answers_of_meaning answering means question.form
  rw [refused] at answered
  cases answered

/-- The only faults of a meaning are missing answers. -/
theorem meaning_error {tree : Tree} {value : Value} {fault : Fault}
    (failed : tree.meaning value = .error fault) : tree.Misses fault := by
  induction tree generalizing value with
  | leaf check => cases failed
  | junction connective lazily operands ih =>
      have member := Meaning.mem_of_junction_error failed
      rw [verdicts_eq_map] at member
      obtain ⟨operand, isOperand, verdict⟩ := List.mem_map.mp member
      cases means : operand.meaning value with
      | error other =>
          rw [means] at verdict
          cases verdict
          exact (ih operand isOperand means).within isOperand
      | ok result =>
          rw [means] at verdict
          exact .of_refusal isOperand means verdict
  | negation target ih =>
      rw [meaning] at failed
      cases means : target.meaning value with
      | error other =>
          rw [means] at failed
          cases failed
          exact (ih means).within (by simp [parts])
      | ok result =>
          rw [means] at failed
          cases answered : result.answer? target.form with
          | error other =>
              simp only [bind, Except.bind, answered] at failed
              cases failed
              exact .of_refusal (by simp [asked]) means answered
          | ok answer =>
              simp only [bind, Except.bind, answered] at failed
              cases answer <;> cases failed
  | function head => cases failed
  | chain head tail ih =>
      rw [meaning] at failed
      cases applied : head.apply value with
      | ok next =>
          rw [applied] at failed
          exact (ih failed).within (by simp [parts])
      | error failure =>
          rw [applied] at failed
          cases failed
  | transform mapper checker mapperIH checkerIH =>
      rw [meaning] at failed
      cases means : mapper.meaning value with
      | error other =>
          rw [means] at failed
          cases failed
          exact (mapperIH means).within (by simp [parts])
      | ok mapped =>
          rw [means] at failed
          cases mapped with
          | returned next => exact (checkerIH failed).within (by simp [parts])
          | thrown failure => cases failed
          | skipped => cases failed
  | quantifier predicate cutOn default ih =>
      cases value with
      | list items =>
          rcases Meaning.search_error failed with failed | ⟨found, member, refused⟩
          · obtain ⟨item, -, failed⟩ := List.mem_map.mp failed
            exact (ih failed).within (by simp [parts])
          · obtain ⟨item, -, means⟩ := List.mem_map.mp member
            exact .of_refusal (by simp [asked]) means refused
      | _ => cases failed
  | curried enclosed slot ih =>
      rw [meaning] at failed
      cases found : value.slot? slot with
      | ok content =>
          rw [found] at failed
          exact (ih failed).within (by simp [parts])
      | error failure =>
          rw [found] at failed
          cases failed

theorem WellAsked.not_misses {tree : Tree} (asked : tree.WellAsked) (fault : Fault) :
    ¬ tree.Misses fault := by
  rintro ⟨holder, question, got, contained, isAsked, unanswering, -⟩
  have answering := asked holder contained question isAsked
  rw [unanswering] at answering
  cases answering

/-- A tree whose parts answer where they are asked means a result for every value. -/
theorem meaning_answers {tree : Tree} (asked : tree.WellAsked) (value : Value) :
    ∃ result, tree.meaning value = .ok result ∧ (tree.answers = true → result.Answers) := by
  cases means : tree.meaning value with
  | error fault => exact absurd (meaning_error means) (asked.not_misses fault)
  | ok result => exact ⟨result, rfl, fun answering => answers_of_meaning answering means⟩

/-- On a value the account of such a tree has no fault either. -/
theorem account_answers {tree : Tree} (asked : tree.WellAsked) (whole : tree.HasOperands)
    (settings : Settings) (flipped : Bool) (value : Value) :
    ∃ account, tree.account settings flipped (some value) = .ok account ∧
      (tree.answers = true → account.result.Answers) := by
  obtain ⟨result, means, answers⟩ := meaning_answers asked value
  have given := account_some whole settings flipped value
  rw [means] at given
  obtain ⟨account, found, rfl⟩ := ok_of_map given
  exact ⟨account, found, answers⟩

end Tree

end Rationale
