/-
Module: Rationale.Mapping
Purpose: Named functions from values to values.
Main exports: Mapping, Mapping.apply, Mapping.isIdentity, Mapping.ofTable
-/
import Rationale.Check

namespace Rationale

/-- A named function that may fail.  The identity is set apart, because a transformation by it is
nothing but its check; no other mapping counts as the identity, whatever it does. -/
inductive Mapping where
  | identity
  | named (name : String) (apply : Value → Except Failure Value) (isTrivial : Bool)

namespace Mapping

/-- The printed name. -/
def name : Mapping → String
  | .identity => "identity"
  | .named name _ _ => name

/-- The value of the function. -/
def apply : Mapping → Value → Except Failure Value
  | .identity => .ok
  | .named _ apply _ => apply

/-- Whether this is the identity. -/
def isIdentity : Mapping → Bool
  | .identity => true
  | .named _ _ _ => false

/-- Whether the rows of the mapping are left out of reports unless it fails. -/
def isTrivial : Mapping → Bool
  | .identity => true
  | .named _ _ isTrivial => isTrivial

/-- The mapping, marked as uninteresting. -/
def markedTrivial : Mapping → Mapping
  | .identity => .identity
  | .named name apply _ => .named name apply true

/-- A mapping whose rows are shown. -/
def new (name : String) (apply : Value → Except Failure Value) : Mapping :=
  .named name apply false

/-- What a table says of a value.  Like `Check.ofTable`, tables of answers serve programs that read
mappings from documents, such as those that test the library, and nothing in the library itself. -/
inductive Answer where
  | input
  | give (value : Value)
  | throw (failure : Failure)

/-- The result of an answer on a value. -/
def Answer.result (value : Value) : Answer → Except Failure Value
  | .input => .ok value
  | .give other => .ok other
  | .throw failure => .error failure

/-- The mapping that answers from a table, for programs that read mappings from documents. -/
def ofTable (name : String) (rows : List (Value × Answer)) (default : Answer) : Mapping :=
  new name fun value => (Check.lookUp rows default value).result value

end Mapping

end Rationale
