/-
Module: Rationale.Failure.Json
Purpose: Failures as JSON documents.
Main exports: Failure.toJson, Failure.ofJson?
-/
import Rationale.Failure
import Rationale.Json

namespace Rationale.Failure

/-- The document of a failure; causes are left out when there are none. -/
def toJson (failure : Failure) : Json :=
  .obj
    ([("kind", .str failure.kind), ("message", .str failure.message)] ++
      if failure.causes.isEmpty then [] else [("causes", .arr (failure.causes.map .str))])

/-- Reads a failure. -/
def ofJson? (json : Json) : Option Failure := do
  let kind ← json.field? "kind" Json.str?
  let message ← json.field? "message" Json.str?
  let causes ← json.fieldD? "causes" [] Json.strings?
  some { kind, message, causes }

end Rationale.Failure
