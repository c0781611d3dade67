/-
Module: Rationale.Check
Purpose: Named tests of values, the leaves of trees.
Main exports: Check, Check.explain, Check.explainedBy, Check.markedTrivial, Check.ofTable
-/
import Rationale.Trace.Row

namespace Rationale

/-- A named test.  It may fail instead of giving an answer, and it may know how to explain an
answer that was not the wanted one; `wanted` is the answer that was. -/
structure Check where
  name : String
  test : Value → Except Failure Bool
  explainer : Option ((value : Value) → (wanted : Bool) → Detail) := none
  /-- An uninteresting test, whose rows are left out of reports unless they diverge. -/
  isTrivial : Bool := false

namespace Check

/-- The long explanation of a check on a value, if the check has one. -/
def explain (check : Check) (value : Value) (wanted : Bool) : Option Detail :=
  check.explainer.map fun explainer => explainer value wanted

/-- The check with the given explanation in place of its own. -/
def explainedBy (explainer : Value → Bool → Detail) (check : Check) : Check :=
  { check with explainer := some explainer }

/-- The check with an explanation by a label and the wanted answer.  The library has no use for it;
programs that read checks from documents have, such as those that test the library. -/
def labelled (label : String) (check : Check) : Check :=
  check.explainedBy fun value wanted =>
    { expected := label ++ " " ++ (if wanted then "true" else "false")
      actual := value.display }

/-- The check, marked as uninteresting. -/
def markedTrivial (check : Check) : Check :=
  { check with isTrivial := true }

/-- The answer that a table gives for a value: that of the first row with the same value, or the
default.  Tables stand in for functions where these are read from documents, as in programs that
test the library, which has no tables of its own. -/
def lookUp {α : Type} (rows : List (Value × α)) (default : α) (value : Value) : α :=
  match rows.find? fun row => value.same row.1 with
  | some row => row.2
  | none => default

/-- The check that answers from a table, for programs that read checks from documents. -/
def ofTable (name : String) (rows : List (Value × Except Failure Bool))
    (default : Except Failure Bool) : Check where
  name := name
  test := lookUp rows default

end Check

end Rationale
