/-
Module: Rationale.Proofs.Mirrors
Purpose: Two evaluations of one tree on one input, under whatever settings and polarities, go the
  same way and leave rows that differ only in what is told of them.
Main exports: Alike, Alike.bind, Forest.Mirrors, Account.Mirrors, visit_alike, Row.Twins,
  Tree.account_alike
-/
import Mathlib.Data.List.Forall2
import Rationale.Proofs.Account
import Rationale.Proofs.Shape

namespace Rationale

/-!
### Results
-/

/-- Both are refused for the same fault, or both have a result and the two results are related. -/
inductive Alike {α β : Type} (related : α → β → Prop) : Except Fault α → Except Fault β → Prop where
  | error (fault : Fault) : Alike related (.error fault) (.error fault)
  | ok {first : α} {second : β} : related first second → Alike related (.ok first) (.ok second)

namespace Alike

variable {α β γ δ : Type} {related : α → β → Prop} {further : γ → δ → Prop}

theorem refl (result : Except Fault α) : Alike (· = ·) result result := by
  cases result with
  | error fault => exact .error fault
  | ok value => exact .ok rfl

/-- Results stay alike if related ones are taken further in ways that are alike. -/
theorem bind {first : Except Fault α} {second : Except Fault β} {next : α → Except Fault γ}
    {other : β → Except Fault δ} (alike : Alike related first second)
    (onward : ∀ one another, related one another → Alike further (next one) (other another)) :
    Alike further (first >>= next) (second >>= other) := by
  cases alike with
  | error fault => exact .error fault
  | ok here => exact onward _ _ here

theorem map {first : Except Fault α} {second : Except Fault β} {f : α → γ} {g : β → δ}
    (alike : Alike related first second)
    (onward : ∀ one another, related one another → further (f one) (g another)) :
    Alike further (first.map f) (second.map g) := by
  cases alike with
  | error fault => exact .error fault
  | ok here => exact .ok (onward _ _ here)

end Alike

/-!
### Forests
-/

/-- The forests have the same shape, and their rows are related one by one. -/
inductive Forest.Mirrors (related : Row → Row → Prop) : Forest → Forest → Prop where
  | nil : Mirrors related .nil .nil
  | cons {row other : Row} {inner otherInner rest otherRest : Forest} (here : related row other)
      (inside : Mirrors related inner otherInner) (beside : Mirrors related rest otherRest) :
      Mirrors related (.cons row inner rest) (.cons other otherInner otherRest)

/-- Two accounts with the same outcome and with related rows. -/
structure Account.Mirrors (related : Row → Row → Prop) (first second : Account) : Prop where
  outcome : first.outcome = second.outcome
  forest : first.forest.Mirrors related second.forest

section Accounts

variable {related : Row → Row → Prop}

namespace Forest

variable {first second other otherSecond inner otherInner : Forest} {row otherRow : Row}

theorem Mirrors.node (here : related row otherRow) (inside : inner.Mirrors related otherInner) :
    (Forest.node row inner).Mirrors related (Forest.node otherRow otherInner) :=
  .cons here inside .nil

theorem Mirrors.append (left : first.Mirrors related other)
    (right : second.Mirrors related otherSecond) :
    (first ++ second).Mirrors related (other ++ otherSecond) := by
  induction left with
  | nil => exact right
  | cons here inside _ _ ih => exact .cons here inside ih

/-- Traces list related rows at related levels. -/
theorem Mirrors.forall₂_rows (mirrors : first.Mirrors related second) (level deeper : Nat) :
    List.Forall₂ (fun row other => ∃ carried twin shownAt, related carried twin ∧
        row = Row.atLevel shownAt carried ∧ other = Row.atLevel (shownAt + deeper) twin)
      (first.rows level) (second.rows (level + deeper)) := by
  induction mirrors generalizing level with
  | nil => exact .nil
  | @cons row other inner otherInner rest otherRest here _ _ inside beside =>
      have below := inside (level + 1)
      rw [Nat.add_right_comm] at below
      exact .cons ⟨row, other, level, here, rfl, rfl⟩ (List.rel_append below (beside level))

end Forest

/-- Two visits with the same answer and with accounts that mirror each other. -/
structure Visit.Mirrors {α : Type} (related : Row → Row → Prop) (first second : Visit α) :
    Prop where
  answer : first.answer = second.answer
  account : first.account.Mirrors related second.account

variable {α : Type} {first second : List (Visit α)}

theorem answersOf_eq_of_mirrors (mirrors : List.Forall₂ (Visit.Mirrors related) first second) :
    answersOf first = answersOf second := by
  induction mirrors with
  | nil => rfl
  | cons here _ ih => exact congrArg₂ List.cons here.answer ih

theorem forestOf_mirrors (mirrors : List.Forall₂ (Visit.Mirrors related) first second) :
    (forestOf first).Mirrors related (forestOf second) := by
  induction mirrors with
  | nil => exact .nil
  | cons here _ ih => exact here.account.forest.append ih

theorem searchOutcome_eq_of_mirrors (cutOn default : Bool)
    (mirrors : List.Forall₂ (Visit.Mirrors related) first second) :
    searchOutcome cutOn default first = searchOutcome cutOn default second := by
  induction mirrors with
  | nil => rfl
  | cons here _ ih =>
      rw [searchOutcome, searchOutcome, here.answer, here.account.outcome, ih]

/-- Rounds of inquiries that come to mirrored accounts visit the same parts. -/
theorem visit_alike {stops : Option Bool → Bool} {form : α → String}
    {ask other : α → Except Fault Account} {subjects : List α}
    (each : ∀ subject ∈ subjects, Alike (Account.Mirrors related) (ask subject) (other subject)) :
    Alike (List.Forall₂ (Visit.Mirrors related))
      (visit stops (subjects.map fun subject => ⟨subject, form subject, ask subject⟩))
      (visit stops (subjects.map fun subject => ⟨subject, form subject, other subject⟩)) := by
  induction subjects with
  | nil => exact .ok .nil
  | cons subject rest ih =>
      have later := ih fun part member => each part (List.mem_cons_of_mem subject member)
      rw [List.map_cons, List.map_cons, visit, visit]
      refine (each subject List.mem_cons_self).bind fun account twin mirrors => ?_
      rw [mirrors.outcome]
      refine (Alike.refl _).bind fun answer same isSame => ?_
      subst isSame
      by_cases stop : stops answer
      · rw [if_pos stop, if_pos stop]
        exact .ok (.cons ⟨rfl, mirrors⟩ .nil)
      · rw [if_neg stop, if_neg stop]
        exact later.bind fun _ _ visited => .ok (.cons ⟨rfl, mirrors⟩ visited)

end Accounts

/-!
### Trees
-/

/-- Two rows of one draft that closed with the same outcome, under settings of their own and under
polarities that are opposite if `turned` says so.  Under one polarity there was the same to
explain. -/
def Row.Twins (first second : Settings) (turned : Bool) (row other : Row) : Prop :=
  ∃ (draft : Draft) (flipped : Bool) (attempt further : Attempt),
    attempt.outcome = further.outcome ∧ (turned = false → attempt = further) ∧
      row = draft.row first flipped attempt ∧ other = draft.row second (flipped != turned) further

section Twins

variable {first second : Settings} {turned : Bool}

theorem Account.within_mirrors {flipped : Bool} {draft : Draft} {attempt further : Attempt}
    {inner otherInner : Forest} (outcome : attempt.outcome = further.outcome)
    (same : turned = false → attempt = further)
    (inside : inner.Mirrors (Row.Twins first second turned) otherInner) :
    (Account.within first flipped draft attempt inner).Mirrors (Row.Twins first second turned)
      (Account.within second (flipped != turned) draft further otherInner) :=
  ⟨outcome, .node ⟨draft, flipped, attempt, further, outcome, same, rfl, rfl⟩ inside⟩

theorem Account.andThen_mirrors {related : Row → Row → Prop} {one other last otherLast : Account}
    (early : one.Mirrors related other) (late : last.Mirrors related otherLast) :
    (one.andThen last).Mirrors related (other.andThen otherLast) where
  outcome := by rw [andThen, andThen, early.outcome, late.outcome]
  forest := early.forest.append late.forest

theorem Account.withOrigin_mirrors {related : Row → Row → Prop} {one other : Account}
    (mirrors : one.Mirrors related other) (origin : Origin) :
    (one.withOrigin origin).Mirrors related (other.withOrigin origin) where
  outcome := congrArg (Outcome.withOrigin origin) mirrors.outcome
  forest := mirrors.forest

/-- What a check answers does not depend on the wanted answer. -/
theorem Check.outcome_ask (check : Check) (wanted other : Bool) (input : Option Value) :
    (check.ask wanted input).outcome = (check.ask other input).outcome := by
  cases input with
  | none => rfl
  | some value =>
      simp only [ask]
      cases check.test value <;> rfl

theorem Mapping.account_mirrors (mapping : Mapping) (flipped : Bool) (draft : Draft)
    (input : Option Value) :
    (mapping.account first flipped draft input).Mirrors (Row.Twins first second turned)
      (mapping.account second (flipped != turned) draft input) :=
  Account.withOrigin_mirrors (Account.within_mirrors rfl (fun _ => rfl) .nil) .head

namespace Tree

/-- Settings and polarity do not matter for what a tree comes to: it has mirrored accounts, or is
refused for one fault. -/
theorem account_alike (tree : Tree) (flipped : Bool) (input : Option Value) :
    Alike (Account.Mirrors (Row.Twins first second turned)) (tree.account first flipped input)
      (tree.account second (flipped != turned) input) := by
  induction tree generalizing flipped input with
  | leaf check =>
      refine .ok (Account.within_mirrors (check.outcome_ask _ _ input) ?_ .nil)
      rintro rfl
      rw [Bool.bne_false]
  | junction connective lazily operands ih =>
      rw [account, account]
      by_cases empty : operands.isEmpty
      · rw [if_pos empty, if_pos empty]
        exact .error _
      · rw [if_neg empty, if_neg empty, accountEach_eq_map, accountEach_eq_map]
        refine (visit_alike fun operand member => ih operand member flipped input).bind
          fun visits others mirrors => .ok ?_
        rw [answersOf_eq_of_mirrors mirrors]
        exact Account.within_mirrors rfl (fun _ => rfl) (forestOf_mirrors mirrors)
  | negation target ih =>
      have inside : (!(flipped != turned)) = ((!flipped) != turned) := by
        cases flipped <;> cases turned <;> rfl
      rw [account, account, inside]
      refine (ih (!flipped) input).bind fun inner other mirrors => ?_
      rw [mirrors.outcome]
      refine (Alike.refl _).bind fun answer same isSame => ?_
      subst isSame
      exact .ok (Account.within_mirrors rfl (fun _ => rfl) mirrors.forest)
  | function head => exact .ok (head.account_mirrors flipped _ input)
  | chain head tail ih =>
      rw [account, account]
      exact (ih flipped _).bind fun last other mirrors => .ok
        (Account.andThen_mirrors (head.account_mirrors flipped _ input)
          (Account.withOrigin_mirrors mirrors .tail))
  | transform mapper checker mapperIH checkerIH =>
      rw [account, account]
      by_cases same : mapper.isIdentity
      · rw [if_pos same, if_pos same]
        exact checkerIH flipped input
      · rw [if_neg same, if_neg same]
        refine (mapperIH flipped input).bind fun mapping other mapped => ?_
        have staged : (mappingStage first flipped (draft input (.transform mapper checker))
            mapping).Mirrors (Row.Twins first second turned) (mappingStage second
              (flipped != turned) (draft input (.transform mapper checker)) other) := by
          rw [mappingStage, mappingStage, mapped.outcome]
          exact Account.within_mirrors rfl (fun _ => rfl) mapped.forest
        simp only [staged.outcome]
        refine (checkerIH flipped _).bind fun checking another checked => .ok ?_
        refine Account.andThen_mirrors staged ?_
        rw [checkingStage, checkingStage, checked.outcome]
        exact Account.within_mirrors rfl (fun _ => rfl) checked.forest
  | quantifier predicate cutOn default ih =>
      have inside : ((flipped != turned) != (cutOn == default)) =
          ((flipped != (cutOn == default)) != turned) := by
        rw [Bool.bne_assoc, Bool.bne_assoc, bne_comm (a := turned)]
      cases input with
      | none =>
          rw [account, account, inside]
          exact (ih _ none).bind fun passed other mirrors => .ok
            (Account.within_mirrors rfl (fun _ => rfl) mirrors.forest)
      | some value =>
          rw [account, account, inside]
          cases listed : value.list? with
          | error failure =>
              exact .ok (Account.within_mirrors rfl (fun _ => rfl) .nil)
          | ok items =>
              refine (visit_alike fun item _ => ih _ (some item)).bind
                fun visits others mirrors => .ok ?_
              rw [searchOutcome_eq_of_mirrors cutOn default mirrors]
              exact Account.within_mirrors rfl (fun _ => rfl) (forestOf_mirrors mirrors)
  | curried enclosed slot ih =>
      cases input with
      | none =>
          rw [account, account]
          refine (ih flipped none).bind fun inner other mirrors => .ok ?_
          rw [mirrors.outcome]
          exact Account.within_mirrors rfl (fun _ => rfl) mirrors.forest
      | some value =>
          rw [account, account]
          cases projected : value.slot? slot with
          | error failure =>
              exact .ok (Account.within_mirrors rfl (fun _ => rfl) .nil)
          | ok content =>
              refine (ih flipped (some content)).bind fun inner other mirrors => .ok ?_
              rw [mirrors.outcome]
              exact Account.within_mirrors rfl (fun _ => rfl) mirrors.forest

end Tree

end Twins

end Rationale
