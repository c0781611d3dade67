/-
Module: Rationale.Decimal.Notation
Purpose: The written form of decimals, and the more liberal forms that are read.
Main exports: Decimal.print, Decimal.read?
-/
import Rationale.Decimal.Basic
import Rationale.Numeral

namespace Rationale.Decimal

open Numeral (digit?)

/-!
A decimal is written in plain notation with exactly `scale` digits after the point, so writing
keeps the scale.  Reading accepts in addition a plus sign, a missing whole or fraction part,
underscores after the first digit, an exponent, and more digits than a decimal holds: the first
fraction digit that no longer fits rounds the number, half away from zero, and the digits after it
have no say.  Where the fraction of a short number is full, an underscore takes the place of that
digit and counts as 0.  An exponent moves the point of the number so read, and where that takes
digits below the last place, the number is rounded once more.  A zero that is read has no sign, but
a negative number that an exponent rounds to zero keeps its own.
-/

/-- Digits with a point before the last `scale` of them and at least one digit before the point. -/
def placePoint (scale : Nat) (digits : List Char) : List Char :=
  let padded := List.replicate (scale + 1 - digits.length) '0' ++ digits
  let whole := padded.take (padded.length - scale)
  let fraction := padded.drop (padded.length - scale)
  if fraction.isEmpty then whole else whole ++ '.' :: fraction

/-- The plain notation of `± mantissa / 10 ^ scale`. -/
def plain (negative : Bool) (mantissa scale : Nat) : List Char :=
  (if negative then ['-'] else []) ++ placePoint scale (Nat.toDigits 10 mantissa)

/-- The written form of a decimal. -/
def print (d : Decimal) : String :=
  .ofList (plain d.negative d.mantissa d.scale)

/-- Adds one unit in the last place; a mantissa that no longer fits gives up one fraction digit. -/
def roundUp? (mantissa scale : Nat) : Option (Nat × Nat) :=
  if mantissa + 1 < mantissaBound then some (mantissa + 1, scale)
  else if scale = 0 then none
  else some ((mantissa + 1 + 4) / 10, scale - 1)

/-- Rounds by the first digit that is not kept. -/
def round? (mantissa scale digit : Nat) : Option (Nat × Nat) :=
  if 5 ≤ digit then roundUp? mantissa scale else some (mantissa, scale)

/-- Whether a character may stand after the digit that rounds. -/
def isPassedOver (c : Char) : Bool :=
  c.isDigit || c == '_'

/-- The bound of a short mantissa: one that fits in 64 bits with any further digit, and with room
to spare, `(2 ^ 64 - 1) / 10 - 255`. -/
def shortBound : Nat := 1844674407370954906

/-- Whether an underscore ends the number as a further digit 0 would.  It does so after the last
fraction digit that is kept, if the mantissa before that digit was short; in a longer number an
underscore says nothing. -/
def endsAtUnderscore (mantissa scale : Nat) : Bool :=
  scale == maxScale && mantissa / 10 < shortBound

/-- Reads digits with at most one point into a mantissa and a scale.  `pointed` tells whether the
point was passed and `digits` whether a digit was. -/
def readDigits? (pointed digits : Bool) (mantissa scale : Nat) : List Char → Option (Nat × Nat)
  | [] => if digits then some (mantissa, scale) else none
  | c :: rest =>
    match digit? c with
    | some digit =>
      if pointed && (scale == maxScale || mantissaBound ≤ 10 * mantissa + digit) then
        if rest.all isPassedOver then round? mantissa scale digit else none
      else if mantissaBound ≤ 10 * mantissa + digit then none
      else
        let scale := if pointed then scale + 1 else scale
        readDigits? pointed true (10 * mantissa + digit) scale rest
    | none =>
      if c = '_' && digits then
        if endsAtUnderscore mantissa scale then
          if rest.all isPassedOver then some (mantissa, scale) else none
        else readDigits? pointed digits mantissa scale rest
      else if c = '.' && !pointed then readDigits? true digits mantissa scale rest
      else none

/-- Reads a number without exponent; the sign of a zero is dropped. -/
def readPlain? (chars : List Char) : Option Decimal :=
  let signed? (negative : Bool) (rest : List Char) : Option Decimal := do
    let (mantissa, scale) ← readDigits? false false 0 0 rest
    make? (negative && mantissa != 0) mantissa scale
  match chars with
  | '-' :: rest => signed? true rest
  | '+' :: rest => signed? false rest
  | rest => signed? false rest

/-- Reads one or more digits. -/
def readCount? (chars : List Char) : Option Nat :=
  if chars.isEmpty then none
  else chars.foldlM (fun value c => (digit? c).map (10 * value + ·)) 0

/-- Reads the absolute value of an exponent, which may have a plus sign. -/
def readExponent? : List Char → Option Nat
  | '+' :: digits => readCount? digits
  | digits => readCount? digits

/-- Multiplies by a power of ten: first the fraction digits are used up, then the mantissa grows. -/
def scaleUp? (d : Decimal) (exponent : Nat) : Option Decimal :=
  if exponent ≤ d.scale then make? d.negative d.mantissa (d.scale - exponent)
  else if maxScale < exponent then none
  else make? d.negative (d.mantissa * tenPow (exponent - d.scale)) 0

/-- A mantissa without its last digits, rounded half away from zero. -/
def dropDigits (mantissa count : Nat) : Nat :=
  (mantissa + tenPow count / 2) / tenPow count

/-- Divides by a power of ten by moving the point.  Digits beyond the last place are rounded off,
and the sign stays even where only zeros are left. -/
def scaleDown? (d : Decimal) (exponent : Nat) : Option Decimal :=
  if maxScale < exponent then none
  else
    let scale := d.scale + exponent
    make? d.negative (dropDigits d.mantissa (scale - maxScale)) (min scale maxScale)

/-- Whether a character begins an exponent. -/
def isExponentMark (c : Char) : Bool :=
  c == 'e' || c == 'E'

/-- Reads a number with an exponent. -/
def readScientific? (chars : List Char) : Option Decimal := do
  let base := chars.takeWhile (!isExponentMark ·)
  match chars.dropWhile (!isExponentMark ·) with
  | [] => none
  | _ :: '-' :: exponent => scaleDown? (← readPlain? base) (← readExponent? exponent)
  | _ :: exponent => scaleUp? (← readPlain? base) (← readExponent? exponent)

/-- Reads a decimal in any accepted form. -/
def read? (text : String) : Option Decimal :=
  readPlain? text.toList <|> readScientific? text.toList

/-- Drops the zeros at the end of the fraction of `mantissa / 10 ^ places`. -/
def dropZeros (mantissa : Nat) : (places : Nat) → Nat × Nat
  | 0 => (mantissa, 0)
  | places + 1 =>
    if mantissa % 10 = 0 then dropZeros (mantissa / 10) places else (mantissa, places + 1)

/-- The decimal of a number literal `mantissa / 10 ^ places`, by its shortest plain notation. -/
def ofLiteral? (mantissa : Int) (places : Nat) : Option Decimal :=
  let (magnitude, scale) := dropZeros mantissa.natAbs places
  readPlain? (plain (mantissa < 0) magnitude scale)

end Rationale.Decimal
