/-
Module: Rationale.Decimal.Basic
Purpose: Fixed point numbers of bounded size, and their numeric order.
Main exports: Decimal, Decimal.make?, Decimal.ofInt64, Decimal.compare, Decimal.equals
-/

namespace Rationale

/-!
A decimal is a sign, a mantissa below `2 ^ 96` and a scale of at most 28 and stands for
`± mantissa / 10 ^ scale`.  The scale, and on a zero also the sign, belongs to the number as it is
written: `1.0` and `1.00` are two decimals of one numeric value, and so are `0.0` and `-0.0`.
Comparison is exact: both sides are brought to a common scale in unbounded integers.
-/

/-- One more than the greatest mantissa. -/
def Decimal.mantissaBound : Nat := Nat.pow 2 96

/-- The greatest number of digits after the point. -/
def Decimal.maxScale : Nat := 28

/-- A fixed point number. -/
structure Decimal where
  negative : Bool
  mantissa : Nat
  scale : Nat
  mantissa_lt : mantissa < Decimal.mantissaBound
  scale_le : scale ≤ Decimal.maxScale
deriving DecidableEq

namespace Decimal

/-- A power of ten. -/
def tenPow (exponent : Nat) : Nat :=
  Nat.pow 10 exponent

/-- The decimal with the given parts, if they are within bounds. -/
def make? (negative : Bool) (mantissa scale : Nat) : Option Decimal :=
  if bounds : mantissa < mantissaBound ∧ scale ≤ maxScale then
    some { negative, mantissa, scale, mantissa_lt := bounds.1, scale_le := bounds.2 }
  else none

/-- The mantissa with the sign. -/
def signed (d : Decimal) : Int :=
  if d.negative then -d.mantissa else d.mantissa

/-- Every 64-bit integer as a decimal without fraction digits. -/
def ofInt64 (i : Int64) : Decimal where
  negative := i < 0
  mantissa := i.toInt.natAbs
  scale := 0
  mantissa_lt := by
    have lower := i.le_toInt
    have upper := i.toInt_lt
    have bound : mantissaBound = 79228162514264337593543950336 := rfl
    omega
  scale_le := Nat.zero_le _

/-- The order of the numeric values. -/
def compare (a b : Decimal) : Ordering :=
  Ord.compare (a.signed * tenPow b.scale) (b.signed * tenPow a.scale)

/-- Whether two decimals have the same numeric value, however they are written. -/
def equals (a b : Decimal) : Bool :=
  a.compare b == .eq

theorem equals_refl (d : Decimal) : d.equals d = true := by
  simp [equals, compare]

end Decimal

end Rationale
