/-
Module: Rationale.Proofs.Faults
Purpose: Which trees abort an evaluation, and with which fault: a junction without operands is found
  before anything is evaluated, and otherwise only an answer can be missing where one is needed.
Main exports: Tree.not_hasOperands_iff, Tree.evaluate_faults
-/
import Rationale.Mapping.Stock
import Rationale.Proofs.Typing

namespace Rationale

namespace Tree

theorem evaluate_of_lacksOperands {tree first : Tree} (settings : Settings) (input : Value)
    (found : tree.preorder.find? lacksOperands = some first) :
    tree.evaluate settings input = .error (.emptyJunction first.form) := by
  rw [evaluate_eq_account, validate_eq_refusal, found]
  rfl

theorem evaluate_error_of_hasOperands {tree : Tree} {settings : Settings} {input : Value}
    {fault : Fault} (whole : tree.HasOperands)
    (aborted : tree.evaluate settings input = .error fault) : tree.Misses fault := by
  rw [evaluate_eq_account, validate_eq_ok_iff.mpr whole] at aborted
  have means := account_some whole settings false input
  cases given : tree.account settings false (some input) with
  | ok account =>
      rw [given] at aborted
      cases aborted
  | error other =>
      rw [given] at aborted means
      cases aborted
      exact meaning_error means.symm

theorem not_hasOperands_iff {tree : Tree} :
    ¬ tree.HasOperands ↔ ∃ connective lazily, tree.Contains (.junction connective lazily []) := by
  constructor
  · intro lacking
    by_contra absent
    apply lacking
    rintro part contained connective lazily rfl
    exact absent ⟨connective, lazily, contained⟩
  · rintro ⟨connective, lazily, contained⟩ whole
    exact whole _ contained connective lazily rfl

theorem find?_lacksOperands_iff {tree first : Tree} :
    tree.preorder.find? lacksOperands = some first ↔
      ∃ before connective lazily after, first = .junction connective lazily [] ∧
        tree.preorder = before ++ .junction connective lazily [] :: after ∧
        ∀ part ∈ before, ∀ connective lazily, part ≠ .junction connective lazily [] := by
  rw [List.find?_eq_some_iff_append]
  constructor
  · rintro ⟨lacks, before, after, listed, passed⟩
    obtain ⟨connective, lazily, rfl⟩ := lacksOperands_iff.mp lacks
    refine ⟨before, connective, lazily, after, rfl, listed, ?_⟩
    rintro part member connective lazily rfl
    exact Bool.noConfusion (passed _ member)
  · rintro ⟨before, connective, lazily, after, rfl, listed, passed⟩
    refine ⟨rfl, before, after, listed, fun part member => ?_⟩
    rw [Bool.not_eq_true', Bool.eq_false_iff]
    intro lacks
    obtain ⟨connective, lazily, rfl⟩ := lacksOperands_iff.mp lacks
    exact passed _ member connective lazily rfl

/-- Which trees abort.  A junction without operands is reported wherever it stands, the first from
the top and from the left.  Any other fault is an answer missing where the shape of the tree does
not promise one, so that a tree whose parts answer where they are asked evaluates on every input. -/
theorem evaluate_faults (settings : Settings) (tree : Tree) (input : Value) :
    (∀ form, tree.evaluate settings input = .error (.emptyJunction form) ↔
      ∃ before connective lazily after,
        tree.preorder = before ++ .junction connective lazily [] :: after ∧
        (∀ part ∈ before, ∀ connective lazily, part ≠ .junction connective lazily []) ∧
        form = connective.form lazily) ∧
    ((∃ form, tree.evaluate settings input = .error (.emptyJunction form)) ↔
      ∃ connective lazily, tree.Contains (.junction connective lazily [])) ∧
    (tree.HasOperands → ∀ fault, tree.evaluate settings input = .error fault →
      tree.Misses fault) ∧
    (tree.HasOperands → tree.WellAsked →
      ∃ evaluation, tree.evaluate settings input = .ok evaluation) := by
  have lacking : ∀ form, tree.evaluate settings input = .error (.emptyJunction form) →
      ¬ tree.HasOperands := by
    intro form aborted whole
    obtain ⟨holder, question, got, -, -, -, -, named⟩ :=
      evaluate_error_of_hasOperands whole aborted
    cases named
  refine ⟨fun form => ?_, ?_, fun whole fault => evaluate_error_of_hasOperands whole, ?_⟩
  · constructor
    · intro aborted
      cases found : tree.preorder.find? lacksOperands with
      | none => exact absurd (hasOperands_iff_find?.mpr found) (lacking form aborted)
      | some first =>
          rw [evaluate_of_lacksOperands settings input found] at aborted
          obtain ⟨before, connective, lazily, after, rfl, listed, passed⟩ :=
            find?_lacksOperands_iff.mp found
          cases aborted
          exact ⟨before, connective, lazily, after, listed, passed, rfl⟩
    · rintro ⟨before, connective, lazily, after, listed, passed, rfl⟩
      have found := find?_lacksOperands_iff.mpr
        ⟨before, connective, lazily, after, rfl, listed, passed⟩
      exact evaluate_of_lacksOperands settings input found
  · rw [← not_hasOperands_iff]
    constructor
    · rintro ⟨form, aborted⟩
      exact lacking form aborted
    · rw [hasOperands_iff_find?, ← ne_eq, Option.ne_none_iff_exists']
      rintro ⟨first, found⟩
      exact ⟨first.form, evaluate_of_lacksOperands settings input found⟩
  · intro whole asked
    cases evaluated : tree.evaluate settings input with
    | ok evaluation => exact ⟨evaluation, rfl⟩
    | error fault =>
        exact absurd (evaluate_error_of_hasOperands whole evaluated) (asked.not_misses fault)

theorem evaluate_faults_behind_length :
    (evaluate {} (.transform (.function .length) (.negation (and []))) .null =
      .error (.emptyJunction "and")) ∧
    ∃ evaluation,
      evaluate {} (.transform (.function .length) (.negation (.leaf .isTrue))) .null =
        .ok evaluation := by
  constructor
  · apply ((evaluate_faults _ _ _).1 "and").mpr
    refine ⟨[_, .function .length, .negation (and [])], .conjunction, true, [], rfl, ?_, rfl⟩
    simp
  · have whole : HasOperands (.transform (.function .length) (.negation (.leaf .isTrue))) :=
      validate_eq_ok_iff.mp rfl
    have targetAsked : WellAsked (.negation (.leaf .isTrue)) :=
      wellAsked_iff.mpr (by simpa [asked, parts, answers] using wellAsked_leaf .isTrue)
    have wellAsked : WellAsked (.transform (.function .length) (.negation (.leaf .isTrue))) :=
      wellAsked_iff.mpr
        (by simpa [asked, parts] using ⟨wellAsked_function .length, targetAsked⟩)
    exact (evaluate_faults _ _ _).2.2.2 whole wellAsked

end Tree

end Rationale
