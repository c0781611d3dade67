/-
Module: Rationale.Proofs.Derivation
Purpose: The rules by which a tree comes to its account, one for each way that a part can go.
Main exports: Tree.Evaluates, Tree.evaluates_of_account, Tree.Evaluates.forest_ne_nil,
  Tree.evaluate_ok
-/
import Rationale.Proofs.Following

namespace Rationale

namespace Tree

/-- A tree comes to an account, under a polarity and on an input that may be absent. -/
inductive Evaluates (settings : Settings) :
    Tree → (flipped : Bool) → Option Value → Account → Prop where
  | leaf {check : Check} {flipped : Bool} {input : Option Value} :
      Evaluates settings (.leaf check) flipped input
        (.within settings flipped (draft input (.leaf check)) (check.ask (!flipped) input) .nil)
  | junction {connective : Connective} {lazily flipped : Bool} {operands : List Tree}
      {input : Option Value} {visits : List (Visit Tree)}
      (inOrder : visits.map Visit.subject <+: operands) (asked : visits ≠ [])
      (evaluated : ∀ visit ∈ visits, Evaluates settings visit.subject flipped input visit.account)
      (answered : ∀ visit ∈ visits,
        visit.account.outcome.answer? visit.subject.form = .ok visit.answer) :
      Evaluates settings (.junction connective lazily operands) flipped input
        (.within settings flipped (draft input (.junction connective lazily operands))
          { outcome := .ofAnswer (connective.conclude (answersOf visits)) } (forestOf visits))
  | negation {target : Tree} {flipped : Bool} {input : Option Value} {inner : Account}
      {answer : Option Bool}
      (evaluated : Evaluates settings target (!flipped) input inner)
      (answered : inner.outcome.answer? target.form = .ok answer) :
      Evaluates settings (.negation target) flipped input
        (.within settings flipped (draft input (.negation target))
          { outcome := inner.outcome.negated answer } inner.forest)
  | function {head : Mapping} {flipped : Bool} {input : Option Value} :
      Evaluates settings (.function head) flipped input
        (head.account settings flipped (draft input (.function head)) input)
  | chain {head : Mapping} {tail : Tree} {flipped : Bool} {input : Option Value}
      {first last : Account}
      (headed : first = head.account settings flipped (draft input (.chain head tail)) input)
      (evaluated : Evaluates settings tail flipped first.outcome.value? last) :
      Evaluates settings (.chain head tail) flipped input (first.andThen (last.withOrigin .tail))
  | identity {mapper checker : Tree} {flipped : Bool} {input : Option Value} {account : Account}
      (same : mapper.isIdentity = true)
      (evaluated : Evaluates settings checker flipped input account) :
      Evaluates settings (.transform mapper checker) flipped input account
  | transform {mapper checker : Tree} {flipped : Bool} {input : Option Value}
      {mapping first checking : Account}
      (distinct : mapper.isIdentity = false)
      (mapped : Evaluates settings mapper flipped input mapping)
      (staged : first =
        mappingStage settings flipped (draft input (.transform mapper checker)) mapping)
      (checked : Evaluates settings checker flipped first.outcome.value? checking) :
      Evaluates settings (.transform mapper checker) flipped input
        (first.andThen (checkingStage settings flipped first.outcome.value? checking))
  | quantifierSkipped {predicate : Tree} {cutOn default flipped : Bool} {passed : Account}
      (evaluated : Evaluates settings predicate (flipped != (cutOn == default)) none passed) :
      Evaluates settings (.quantifier predicate cutOn default) flipped none
        (.within settings flipped (draft none (.quantifier predicate cutOn default))
          { outcome := .skipped } passed.forest)
  | quantifierRefused {predicate : Tree} {cutOn default flipped : Bool} {value : Value}
      {failure : Failure} (refused : value.list? = .error failure) :
      Evaluates settings (.quantifier predicate cutOn default) flipped (some value)
        (.within settings flipped (draft (some value) (.quantifier predicate cutOn default))
          (.failed value failure) .nil)
  | quantifier {predicate : Tree} {cutOn default flipped : Bool} {value : Value}
      {items : List Value} {visits : List (Visit Value)}
      (listed : value.list? = .ok items)
      (inOrder : visits.map Visit.subject <+: items) (asked : items ≠ [] → visits ≠ [])
      (evaluated : ∀ visit ∈ visits, Evaluates settings predicate (flipped != (cutOn == default))
        (some visit.subject) visit.account)
      (answered : ∀ visit ∈ visits,
        visit.account.outcome.answer? predicate.form = .ok visit.answer) :
      Evaluates settings (.quantifier predicate cutOn default) flipped (some value)
        (.within settings flipped (draft (some value) (.quantifier predicate cutOn default))
          { outcome := searchOutcome cutOn default visits } (forestOf visits))
  | curriedSkipped {enclosed : Tree} {slot : Nat} {flipped : Bool} {inner : Account}
      (evaluated : Evaluates settings enclosed flipped none inner) :
      Evaluates settings (.curried enclosed slot) flipped none
        (.within settings flipped (draft none (.curried enclosed slot))
          { outcome := inner.outcome } inner.forest)
  | curriedRefused {enclosed : Tree} {slot : Nat} {flipped : Bool} {value : Value}
      {failure : Failure} (refused : value.slot? slot = .error failure) :
      Evaluates settings (.curried enclosed slot) flipped (some value)
        (.within settings flipped (draft (some value) (.curried enclosed slot))
          (.failed value failure) .nil)
  | curried {enclosed : Tree} {slot : Nat} {flipped : Bool} {value content : Value}
      {inner : Account} (projected : value.slot? slot = .ok content)
      (evaluated : Evaluates settings enclosed flipped (some content) inner) :
      Evaluates settings (.curried enclosed slot) flipped (some value)
        (.within settings flipped (draft (some value) (.curried enclosed slot))
          { outcome := inner.outcome } inner.forest)

/-- Every account is reached by the rules. -/
theorem evaluates_of_account {settings : Settings} {tree : Tree} {flipped : Bool}
    {input : Option Value} {result : Account}
    (given : tree.account settings flipped input = .ok result) :
    Evaluates settings tree flipped input result := by
  induction tree generalizing flipped input result with
  | leaf check =>
      cases given
      exact .leaf
  | junction connective lazily operands ih =>
      rw [account] at given
      by_cases empty : operands.isEmpty
      · rw [if_pos empty] at given
        cases given
      · rw [if_neg empty, accountEach_eq_map] at given
        obtain ⟨visits, visited, closed⟩ := ok_of_bind given
        cases closed
        obtain ⟨inOrder, asked, each⟩ := visit_ok visited
        have nonempty : operands ≠ [] := fun none => empty (by rw [none]; rfl)
        refine .junction inOrder (asked nonempty) ?_ fun visit member => (each visit member).2
        intro visit member
        have operand : visit.subject ∈ operands :=
          inOrder.subset (List.mem_map_of_mem member)
        exact ih visit.subject operand (each visit member).1
  | negation target ih =>
      rw [account] at given
      obtain ⟨inner, evaluated, given⟩ := ok_of_bind given
      obtain ⟨answer, answered, closed⟩ := ok_of_bind given
      cases closed
      exact .negation (ih evaluated) answered
  | function head =>
      cases given
      exact .function
  | chain head tail ih =>
      rw [account] at given
      obtain ⟨last, evaluated, closed⟩ := ok_of_bind given
      cases closed
      exact .chain rfl (ih evaluated)
  | transform mapper checker mapperIH checkerIH =>
      rw [account] at given
      by_cases same : mapper.isIdentity
      · rw [if_pos same] at given
        exact .identity same (checkerIH given)
      · rw [if_neg same] at given
        obtain ⟨mapping, mapped, given⟩ := ok_of_bind given
        obtain ⟨checking, checked, closed⟩ := ok_of_bind given
        cases closed
        exact .transform (by simpa using same) (mapperIH mapped) rfl (checkerIH checked)
  | quantifier predicate cutOn default ih =>
      cases input with
      | none =>
          rw [account] at given
          obtain ⟨passed, evaluated, closed⟩ := ok_of_bind given
          cases closed
          exact .quantifierSkipped (ih evaluated)
      | some value =>
          rw [account] at given
          cases listed : value.list? with
          | error failure =>
              simp only [listed] at given
              cases given
              exact .quantifierRefused listed
          | ok items =>
              simp only [listed] at given
              obtain ⟨visits, visited, closed⟩ := ok_of_bind given
              cases closed
              obtain ⟨inOrder, asked, each⟩ := visit_ok visited
              exact .quantifier listed inOrder asked
                (fun visit member => ih (each visit member).1)
                (fun visit member => (each visit member).2)
  | curried enclosed slot ih =>
      cases input with
      | none =>
          rw [account] at given
          obtain ⟨inner, evaluated, closed⟩ := ok_of_bind given
          cases closed
          exact .curriedSkipped (ih evaluated)
      | some value =>
          rw [account] at given
          cases projected : value.slot? slot with
          | error failure =>
              simp only [projected] at given
              cases given
              exact .curriedRefused projected
          | ok content =>
              simp only [projected] at given
              obtain ⟨inner, evaluated, closed⟩ := ok_of_bind given
              cases closed
              exact .curried projected (ih evaluated)

/-- Every evaluation leaves a row. -/
theorem Evaluates.forest_ne_nil {settings : Settings} {tree : Tree} {flipped : Bool}
    {input : Option Value} {account : Account}
    (evaluates : Evaluates settings tree flipped input account) : account.forest ≠ .nil := by
  induction evaluates with
  | identity _ _ ih => exact ih
  | chain headed _ _ =>
      rw [headed]
      exact Forest.noConfusion
  | transform _ _ staged _ _ _ =>
      rw [staged]
      exact Forest.noConfusion
  | _ => exact Forest.noConfusion

/-- What an evaluation leaves behind is the account that the rules reach on the input. -/
theorem evaluate_ok {settings : Settings} {tree : Tree} {input : Value} {evaluation : Evaluation}
    (evaluated : tree.evaluate settings input = .ok evaluation) :
    ∃ account, Evaluates settings tree false (some input) account ∧
      account.evaluation settings = evaluation := by
  rw [evaluate_eq_account] at evaluated
  obtain ⟨_, -, run⟩ := ok_of_bind evaluated
  cases given : tree.account settings false (some input) with
  | error fault =>
      rw [given] at run
      cases run
  | ok account =>
      rw [given] at run
      cases run
      exact ⟨account, evaluates_of_account given, rfl⟩

end Tree

end Rationale
