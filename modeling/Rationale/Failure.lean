/-
Module: Rationale.Failure
Purpose: Failures raised by checks and mappings.
Main exports: Failure, Failure.display, Failure.excerpt, Failure.typeMismatch, Failure.ofError
-/
import Rationale.Value.Basic

namespace Rationale

/-- The failure of a check or a mapping on a value: its kind, its message, and the messages of
what caused it, the nearest cause first. -/
structure Failure where
  kind : String
  message : String
  causes : List String := []
deriving Repr, DecidableEq, Inhabited

namespace Failure

/-- The text of a failure on one line. -/
def display (failure : Failure) : String :=
  failure.kind ++ ": " ++ failure.message

/-- The text of a failure in a detail, with one line for each cause. -/
def excerpt (failure : Failure) : String :=
  "Exception Thrown: " ++ failure.kind ++ "\nException Message: " ++ failure.message ++
    String.join (failure.causes.map ("\n  caused by: " ++ ·))

/-- The failure on a value of the wrong type. -/
def typeMismatch (expected : String) (got : Value) : Failure where
  kind := "TypeMismatch"
  message := "expected " ++ expected ++ ", got " ++ got.typeName

/-- The characters after the last double colon; `segment` is what followed the last one so far. -/
def lastSegment (segment : List Char) : List Char → List Char
  | [] => segment
  | ':' :: ':' :: rest => lastSegment rest (':' :: rest)
  | _ :: rest => lastSegment segment rest

/-- The part of a type's name that is neither its path nor its parameters. -/
def shortName (typeName : String) : String :=
  let base := typeName.toList.takeWhile (· != '<')
  .ofList (lastSegment base base)

/-- Captures an error, with the short name of its type as the kind. -/
def ofError (typeName message : String) (causes : List String) : Failure where
  kind := shortName typeName
  message := message
  causes := causes

end Failure

namespace Value

/-- The text in a value. -/
def text? : Value → Except Failure String
  | .text s => .ok s
  | other => .error (.typeMismatch "Text" other)

/-- The items of a list. -/
def list? : Value → Except Failure (List Value)
  | .list items => .ok items
  | other => .error (.typeMismatch "List" other)

/-- The number in a value, widened to a decimal. -/
def decimal? : Value → Except Failure Decimal
  | .int i => .ok (.ofInt64 i)
  | .decimal d => .ok d
  | other => .error (.typeMismatch "Int or Decimal" other)

end Value

end Rationale
