/-
Module: Rationale.Settings.Json
Purpose: Settings as JSON documents.
Main exports: Settings.toJson, Settings.ofJson?
-/
import Rationale.Json
import Rationale.Settings

namespace Rationale.Settings

/-- The document of settings. -/
def toJson (settings : Settings) : Json :=
  .obj
    [("debug", .bool settings.debug), ("suppress_details", .bool settings.suppressDetails),
      ("max_snapshot_len", .int settings.cellWidth)]

/-- Reads settings from an object; a missing member takes its default. -/
def ofJson? (json : Json) : Option Settings :=
  match json with
  | .obj _ => do
    let debug ← json.fieldD? "debug" false Json.bool?
    let suppressDetails ← json.fieldD? "suppress_details" false Json.bool?
    let cellWidth ← json.fieldD? "max_snapshot_len" defaultCellWidth Json.nat?
    some { debug, suppressDetails, cellWidth }
  | _ => none

end Rationale.Settings
