/-
Module: Rationale.Numeral
Purpose: Reading of whole numbers in decimal digits into 64-bit integers.
Main exports: Numeral.digit?, Numeral.Problem, Numeral.Problem.message, Numeral.read
-/

namespace Rationale.Numeral

/-!
A numeral is an optional sign and at least one digit.  It is read from left to right and the first
problem met decides how reading fails: a character that is no digit counts before the size of the
number that ends there.
-/

/-- The value of an ASCII digit. -/
def digit? (c : Char) : Option Nat :=
  if c.isDigit then some (c.toNat - '0'.toNat) else none

/-- What can be wrong with a numeral. -/
inductive Problem where
  | empty
  | invalidDigit
  | tooLarge
  | tooSmall
deriving Repr, DecidableEq

/-- The text that names a problem. -/
def Problem.message : Problem → String
  | .empty => "cannot parse integer from empty string"
  | .invalidDigit => "invalid digit found in string"
  | .tooLarge => "number too large to fit in target type"
  | .tooSmall => "number too small to fit in target type"

/-- The greatest absolute value of a 64-bit integer of the given sign. -/
def magnitudeLimit (negative : Bool) : Nat :=
  if negative then Nat.pow 2 63 else Nat.pow 2 63 - 1

/-- The problem of a number beyond the limit on its side of zero. -/
def Problem.beyond (negative : Bool) : Problem :=
  if negative then .tooSmall else .tooLarge

/-- Reads the absolute value that continues `value`. -/
def readMagnitude (negative : Bool) (value : Nat) : List Char → Except Problem Nat
  | [] => .ok value
  | c :: rest =>
    match digit? c with
    | none => .error .invalidDigit
    | some digit =>
      if 10 * value + digit ≤ magnitudeLimit negative then
        readMagnitude negative (10 * value + digit) rest
      else .error (.beyond negative)

/-- Reads the digits after a sign, of which there must be at least one. -/
def readSigned (negative : Bool) (digits : List Char) : Except Problem Int64 :=
  if digits.isEmpty then .error .invalidDigit
  else (readMagnitude negative 0 digits).map fun magnitude =>
    .ofInt (if negative then -magnitude else magnitude)

/-- Reads a numeral. -/
def read (text : String) : Except Problem Int64 :=
  match text.toList with
  | [] => .error .empty
  | '-' :: digits => readSigned true digits
  | '+' :: digits => readSigned false digits
  | digits => readSigned false digits

end Rationale.Numeral
