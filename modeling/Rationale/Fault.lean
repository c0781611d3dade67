/-
Module: Rationale.Fault
Purpose: Mistakes in the making of a tree or in the use of a recorder, which abort an evaluation.
Main exports: Fault, Fault.message
-/

namespace Rationale

/-- A mistake that aborts an evaluation.  It never shows in a trace; failures of checks and
mappings are recorded as outcomes instead. -/
inductive Fault where
  /-- A conjunction or disjunction has no operands. -/
  | emptyJunction (form : String)
  /-- A part that has to decide something returned a value of another type than `Bool`. -/
  | notBoolean (form : String) (got : String)
  /-- A row was closed that is not the innermost open one. -/
  | unbalanced (expected : Option Nat) (got : Nat)
  /-- A recording was finished or imported while rows were open. -/
  | openRows (count : Nat)
deriving Repr, DecidableEq, Inhabited

namespace Fault

/-- The text of an optional position. -/
def position : Option Nat → String
  | some handle => "Some(" ++ toString handle ++ ")"
  | none => "None"

/-- The text of a fault. -/
def message : Fault → String
  | .emptyJunction form => form ++ " requires at least one operand"
  | .notBoolean form got => "'" ++ form ++ "' must produce Bool, got " ++ got
  | .unbalanced expected got =>
    "unbalanced trace: expected to leave record " ++ position expected ++ ", got " ++ toString got
  | .openRows count => toString count ++ " trace record(s) still open"

end Fault

end Rationale
