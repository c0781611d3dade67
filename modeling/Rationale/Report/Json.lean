/-
Module: Rationale.Report.Json
Purpose: Explanations as JSON documents.
Main exports: Explanation.toJson, Explanation.ofJson?
-/
import Rationale.Json
import Rationale.Report.Explanation

namespace Rationale

/-- The document of a detail. -/
def Section.toJson (part : Section) : Json :=
  .obj [("index", .int part.index), ("form_name", .str part.form), ("text", .str part.text)]

/-- Reads a detail. -/
def Section.ofJson? (json : Json) : Option Section := do
  let index ← json.field? "index" Json.nat?
  let form ← json.field? "form_name" Json.str?
  let text ← json.field? "text" Json.str?
  some { index, form, text }

/-- The document of a report. -/
def Report.toJson (report : Report) : Json :=
  .obj
    [("summary", .str report.summary), ("details", .arr (report.sections.map Section.toJson))]

/-- Reads a report. -/
def Report.ofJson? (json : Json) : Option Report := do
  let summary ← json.field? "summary" Json.str?
  let parts ← json.field? "details" Json.arr?
  let sections ← parts.mapM Section.ofJson?
  some { summary, sections }

/-- The document of an explanation. -/
def Explanation.toJson (explanation : Explanation) : Json :=
  .obj
    [("message", .str explanation.message), ("expected", explanation.expected.toJson),
      ("actual", explanation.actual.toJson)]

/-- Reads an explanation. -/
def Explanation.ofJson? (json : Json) : Option Explanation := do
  let message ← json.field? "message" Json.str?
  let expected ← json.field? "expected" Report.ofJson?
  let actual ← json.field? "actual" Report.ofJson?
  some { message, expected, actual }

end Rationale
