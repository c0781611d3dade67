/-
Module: Rationale.Proofs.Comparisons
Purpose: The comparisons of numbers with a bound answer as the rational numbers stand.
Main exports: Decimal.rational, Value.rational?, Decimal.compare_eq, Comparison, Comparison.check,
  Comparison.test_check, Comparison.check_orders
-/
import Mathlib.Algebra.Order.Field.Rat
import Mathlib.Algebra.Order.Field.Basic
import Mathlib.Tactic.Positivity
import Rationale.Check.Stock

namespace Rationale

/-!
### Numeric values

The number that a decimal stands for forgets how it is written.  The comparison of two decimals on a
common scale is the comparison of their numbers, and widening an integer keeps its number.
-/

namespace Decimal

/-- The number that the decimal stands for. -/
def rational (d : Decimal) : ℚ :=
  d.signed / 10 ^ d.scale

theorem rational_lt_rational_iff (a b : Decimal) :
    a.rational < b.rational ↔ a.signed * tenPow b.scale < b.signed * tenPow a.scale := by
  have above : (0 : ℚ) < 10 ^ a.scale := by positivity
  have below : (0 : ℚ) < 10 ^ b.scale := by positivity
  rw [rational, rational, div_lt_div_iff₀ above below]
  simp only [tenPow, Nat.pow_eq]
  norm_cast

/-- Decimals are compared as the numbers that they stand for. -/
theorem compare_eq (a b : Decimal) : a.compare b = Ord.compare a.rational b.rational := by
  have ascending := rational_lt_rational_iff a b
  have descending := rational_lt_rational_iff b a
  rcases lt_trichotomy a.rational b.rational with less | same | greater
  · rw [compare_lt_iff_lt.mpr less, compare, compare_lt_iff_lt]
    exact ascending.mp less
  · rw [compare_eq_iff_eq.mpr same, compare, compare_eq_iff_eq]
    rw [same] at ascending descending
    exact le_antisymm (not_lt.mp (mt descending.mpr (lt_irrefl _)))
      (not_lt.mp (mt ascending.mpr (lt_irrefl _)))
  · rw [compare_gt_iff_gt.mpr greater, compare, compare_gt_iff_gt]
    exact descending.mp greater

theorem equals_iff (a b : Decimal) : a.equals b = true ↔ a.rational = b.rational := by
  rw [equals, compare_eq, beq_iff_eq, compare_eq_iff_eq]

theorem rational_ofInt64 (i : Int64) : (ofInt64 i).rational = i.toInt := by
  have signed : (ofInt64 i).signed = i.toInt := by
    rw [Decimal.signed, ofInt64]
    by_cases negative : i < 0
    · have below : i.toInt < 0 := Int64.lt_iff_toInt_lt.mp negative
      simp only [negative, decide_true, if_true]
      omega
    · have above : ¬ i.toInt < 0 := fun below => negative (Int64.lt_iff_toInt_lt.mpr below)
      simp only [negative, decide_false, Bool.false_eq_true, if_false]
      omega
  rw [rational, signed]
  exact div_one _

end Decimal

namespace Value

/-- The number in a value. -/
def rational? : Value → Option ℚ
  | .int i => some i.toInt
  | .decimal d => some d.rational
  | _ => none

theorem rational?_eq_none_iff (value : Value) :
    value.rational? = none ↔ value.typeName ≠ "Int" ∧ value.typeName ≠ "Decimal" := by
  cases value <;> simp [rational?, typeName]

/-- Numbers of one type are the same if they are one number, however they are written. -/
theorem same_iff_rational? {a b : Value} (alike : a.typeName = b.typeName)
    (numeric : a.typeName = "Int" ∨ a.typeName = "Decimal") :
    a.same b = true ↔ a.rational? = b.rational? := by
  cases a with
  | int i =>
      cases b with
      | int j => simp [same, rational?, ← Int64.toInt_inj]
      | _ => simp [typeName] at alike
  | decimal d =>
      cases b with
      | decimal e => simp [same, rational?, Decimal.equals_iff]
      | _ => simp [typeName] at alike
  | _ => simp [typeName] at numeric

/-- What widens to a decimal has its number, and the rest is refused. -/
theorem decimal?_cases (value : Value) :
    (∃ d : Decimal, value.decimal? = .ok d ∧ value.rational? = some d.rational) ∨
      value.decimal? = .error (.typeMismatch "Int or Decimal" value) ∧ value.rational? = none := by
  cases value with
  | int i => exact Or.inl ⟨_, rfl, congrArg some (Decimal.rational_ofInt64 i).symm⟩
  | decimal d => exact Or.inl ⟨_, rfl, rfl⟩
  | _ => exact Or.inr ⟨rfl, rfl⟩

end Value

/-!
### Comparisons

The four checks of numbers against a bound differ in the relation that they ask for.  Each relation
has an opposite one, which holds where it does not, and a mirrored one, which holds of the two
numbers in the other order.
-/

/-- The relations that a number can be asked to have to a bound. -/
inductive Comparison where
  | above
  | atLeast
  | below
  | atMost
deriving DecidableEq

namespace Comparison

/-- The check for the relation to a bound. -/
def check : Comparison → (bound : Value) → Check
  | .above => .greaterThan
  | .atLeast => .greaterThanOrEqualTo
  | .below => .lessThan
  | .atMost => .lessThanOrEqualTo

/-- The relation holds between a number and a bound. -/
def Holds : Comparison → (number bound : ℚ) → Prop
  | .above, x, y => y < x
  | .atLeast, x, y => y ≤ x
  | .below, x, y => x < y
  | .atMost, x, y => x ≤ y

instance : (comparison : Comparison) → (x y : ℚ) → Decidable (comparison.Holds x y)
  | .above, x, y => inferInstanceAs (Decidable (y < x))
  | .atLeast, x, y => inferInstanceAs (Decidable (y ≤ x))
  | .below, x, y => inferInstanceAs (Decidable (x < y))
  | .atMost, x, y => inferInstanceAs (Decidable (x ≤ y))

/-- The relation that holds where the given one does not. -/
def opposite : Comparison → Comparison
  | .above => .atMost
  | .atLeast => .below
  | .below => .atLeast
  | .atMost => .above

/-- The relation that holds of two numbers in the other order. -/
def mirrored : Comparison → Comparison
  | .above => .below
  | .atLeast => .atMost
  | .below => .above
  | .atMost => .atLeast

variable {comparison : Comparison} {x y z : ℚ}

theorem holds_opposite_iff : comparison.opposite.Holds x y ↔ ¬ comparison.Holds x y := by
  cases comparison with
  | above => exact not_lt.symm
  | atLeast => exact not_le.symm
  | below => exact not_lt.symm
  | atMost => exact not_le.symm

theorem holds_mirrored_iff : comparison.mirrored.Holds y x ↔ comparison.Holds x y := by
  cases comparison <;> rfl

theorem Holds.trans (first : comparison.Holds x y) (second : comparison.Holds y z) :
    comparison.Holds x z := by
  cases comparison with
  | above => exact lt_trans second first
  | atLeast => exact le_trans second first
  | below => exact lt_trans first second
  | atMost => exact le_trans first second

/-- What the check makes of the order of a value and its bound. -/
def accepts : Comparison → Ordering → Bool
  | .above => (· == .gt)
  | .atLeast => (· != .lt)
  | .below => (· == .lt)
  | .atMost => (· != .gt)

theorem test_eq (comparison : Comparison) (value bound : Value) :
    (comparison.check bound).test value = do
      let left ← value.decimal?
      let right ← bound.decimal?
      return comparison.accepts (left.compare right) := by
  cases comparison <;> rfl

theorem accepts_compare_iff (comparison : Comparison) (x y : ℚ) :
    comparison.accepts (Ord.compare x y) = true ↔ comparison.Holds x y := by
  cases comparison with
  | above => exact beq_iff_eq.trans compare_gt_iff_gt
  | atLeast => exact bne_iff_ne.trans compare_ge_iff_ge
  | below => exact beq_iff_eq.trans compare_lt_iff_lt
  | atMost => exact bne_iff_ne.trans compare_le_iff_le

/-- The answer that is to be given for a value and a bound.  Where both are not numbers, the value
is blamed. -/
def verdict (comparison : Comparison) (value bound : Value) : Except Failure Bool :=
  match value.rational?, bound.rational? with
  | none, _ => .error (.typeMismatch "Int or Decimal" value)
  | some _, none => .error (.typeMismatch "Int or Decimal" bound)
  | some x, some y => .ok (decide (comparison.Holds x y))

/-- The check answers what the order of the rational numbers says. -/
theorem test_check (comparison : Comparison) (value bound : Value) :
    (comparison.check bound).test value = comparison.verdict value bound := by
  rw [test_eq, verdict]
  rcases value.decimal?_cases with ⟨a, left, number⟩ | ⟨left, number⟩
  · rcases bound.decimal?_cases with ⟨b, right, limit⟩ | ⟨right, limit⟩
    · rw [left, right, number, limit]
      refine congrArg Except.ok ?_
      rw [Decimal.compare_eq, Bool.eq_iff_iff, accepts_compare_iff, decide_eq_true_iff]
    · rw [left, right, number, limit]
      rfl
  · rw [left, number]
    rfl

/-!
### The order

What the checks answer is read off the rational numbers, so the laws of their order are laws of the
checks.  A failure has no opposite answer, and it is the one thing that mirroring can change, since
it blames whichever side is looked at first.
-/

variable {value bound farther : Value} {answer : Bool}

theorem verdict_eq_error_iff (comparison : Comparison) (value bound : Value) :
    (∃ failure, comparison.verdict value bound = .error failure) ↔
      value.rational? = none ∨ bound.rational? = none := by
  rw [verdict]
  cases value.rational? with
  | none => simp
  | some x => cases bound.rational? <;> simp

theorem verdict_eq_ok_iff :
    comparison.verdict value bound = .ok answer ↔
      ∃ x y, value.rational? = some x ∧ bound.rational? = some y ∧
        decide (comparison.Holds x y) = answer := by
  rw [verdict]
  cases value.rational? with
  | none => simp
  | some x => cases bound.rational? <;> simp

theorem verdict_eq_true_iff :
    comparison.verdict value bound = .ok true ↔
      ∃ x y, value.rational? = some x ∧ bound.rational? = some y ∧ comparison.Holds x y := by
  simp only [verdict_eq_ok_iff, decide_eq_true_iff]

theorem verdict_opposite (comparison : Comparison) (value bound : Value) :
    comparison.opposite.verdict value bound = (comparison.verdict value bound).map not := by
  rw [verdict, verdict]
  cases value.rational? with
  | none => rfl
  | some x =>
      cases bound.rational? with
      | none => rfl
      | some y => exact congrArg Except.ok (by simp [holds_opposite_iff])

theorem verdict_mirrored_iff :
    comparison.mirrored.verdict bound value = .ok answer ↔
      comparison.verdict value bound = .ok answer := by
  simp only [verdict_eq_ok_iff, holds_mirrored_iff]
  constructor
  · rintro ⟨y, x, limit, number, answered⟩
    exact ⟨x, y, number, limit, answered⟩
  · rintro ⟨x, y, number, limit, answered⟩
    exact ⟨y, x, limit, number, answered⟩

theorem verdict_trans (near : comparison.verdict value bound = .ok true)
    (far : comparison.verdict bound farther = .ok true) :
    comparison.verdict value farther = .ok true := by
  obtain ⟨x, y, number, limit, before⟩ := verdict_eq_true_iff.mp near
  obtain ⟨_, z, same, extreme, after⟩ := verdict_eq_true_iff.mp far
  cases limit.symm.trans same
  exact verdict_eq_true_iff.mpr ⟨x, z, number, extreme, before.trans after⟩

/-- Numbers of one type are the same if neither is beyond the other. -/
theorem same_iff_verdicts (alike : value.typeName = bound.typeName)
    (numeric : value.typeName = "Int" ∨ value.typeName = "Decimal") :
    value.same bound = true ↔
      Comparison.verdict .atLeast value bound = .ok true ∧
        Comparison.verdict .atMost value bound = .ok true := by
  rw [Value.same_iff_rational? alike numeric, verdict_eq_true_iff, verdict_eq_true_iff]
  constructor
  · intro same
    cases number : value.rational? with
    | none =>
        obtain ⟨notInt, notDecimal⟩ := value.rational?_eq_none_iff.mp number
        exact absurd numeric (not_or.mpr ⟨notInt, notDecimal⟩)
    | some x =>
        have limit : bound.rational? = some x := same.symm.trans number
        exact ⟨⟨x, x, rfl, limit, le_refl x⟩, ⟨x, x, rfl, limit, le_refl x⟩⟩
  · -- Both answers are about the same two numbers.
    rintro ⟨⟨x, y, number, limit, above⟩, ⟨_, _, again, once, below⟩⟩
    cases number.symm.trans again
    cases limit.symm.trans once
    rw [number, limit, le_antisymm below above]

/-- Against a bound a check of numbers fails with the type of the value, or else of the bound, if
one of them is no number, and otherwise it answers what the rational numbers say.  So the opposite
check negates it, swapping the value and the bound mirrors it, its answers chain, and two numbers of
one type are equal if each is at least and at most the other. -/
theorem check_orders (comparison : Comparison) (value bound : Value) :
    ((∃ failure, (comparison.check bound).test value = .error failure) ↔
        (value.typeName ≠ "Int" ∧ value.typeName ≠ "Decimal") ∨
          (bound.typeName ≠ "Int" ∧ bound.typeName ≠ "Decimal")) ∧
      ((comparison.check bound).test value =
        match value.rational?, bound.rational? with
        | none, _ => .error (.typeMismatch "Int or Decimal" value)
        | some _, none => .error (.typeMismatch "Int or Decimal" bound)
        | some x, some y => .ok (decide (comparison.Holds x y))) ∧
      (comparison.opposite.check bound).test value =
        ((comparison.check bound).test value).map not ∧
      (∀ answer, (comparison.mirrored.check value).test bound = .ok answer ↔
        (comparison.check bound).test value = .ok answer) ∧
      (∀ farther, (comparison.check bound).test value = .ok true →
        (comparison.check farther).test bound = .ok true →
          (comparison.check farther).test value = .ok true) ∧
      (value.typeName = bound.typeName →
        value.typeName = "Int" ∨ value.typeName = "Decimal" →
          ((Check.isEqualTo bound).test value = .ok true ↔
            (Check.greaterThanOrEqualTo bound).test value = .ok true ∧
              (Check.lessThanOrEqualTo bound).test value = .ok true)) := by
  have atLeast : (Check.greaterThanOrEqualTo bound).test value =
      Comparison.verdict .atLeast value bound := test_check .atLeast value bound
  have atMost : (Check.lessThanOrEqualTo bound).test value =
      Comparison.verdict .atMost value bound := test_check .atMost value bound
  simp only [test_check]
  refine ⟨?fails, rfl, verdict_opposite _ _ _, fun _ => verdict_mirrored_iff,
    fun _ => verdict_trans, fun alike numeric => ?equal⟩
  case fails =>
    rw [verdict_eq_error_iff, Value.rational?_eq_none_iff, Value.rational?_eq_none_iff]
  case equal =>
    rw [atLeast, atMost, ← same_iff_verdicts alike numeric]
    simp only [Check.isEqualTo, Except.ok.injEq]

/-- Three and a half is above three, which is above a little less, and writing it with fewer digits
makes no difference. -/
theorem check_orders_mixed :
    let half : Value := .decimal
      { negative := false, mantissa := 350, scale := 2, mantissa_lt := by decide,
        scale_le := by decide }
    let shorter : Value := .decimal
      { negative := false, mantissa := 35, scale := 1, mantissa_lt := by decide,
        scale_le := by decide }
    let less : Value := .decimal
      { negative := false, mantissa := 2999, scale := 3, mantissa_lt := by decide,
        scale_le := by decide }
    (Check.greaterThan (.int 3)).test half = .ok true ∧
      (Check.greaterThan less).test (.int 3) = .ok true ∧
        (Check.greaterThan less).test half = .ok true ∧
          (Check.isEqualTo shorter).test half = .ok true := by
  intro half shorter less
  have near : (Check.greaterThan (.int 3)).test half = .ok true := rfl
  have far : (Check.greaterThan less).test (.int 3) = .ok true := rfl
  obtain ⟨-, -, -, -, chains, -⟩ := check_orders .above half (.int 3)
  obtain ⟨-, -, -, -, -, equal⟩ := check_orders .above half shorter
  exact ⟨near, far, chains less near far, (equal rfl (Or.inr rfl)).mpr ⟨rfl, rfl⟩⟩

end Comparison

end Rationale
