/-
Module: Rationale.Trace.Json
Purpose: Traces as JSON documents.
Main exports: Kind.toJson, Kind.ofJson?, Cell.toJson, Cell.ofJson?, Row.toJson, Row.ofJson?,
  Trace.toJson, Trace.ofJson?
-/
import Rationale.Failure.Json
import Rationale.Trace.Row
import Rationale.Value.Json

namespace Rationale

/-- The name of a stage. -/
def Origin.name : Origin → String
  | .head => "Head"
  | .tail => "Tail"
  | .transform => "Transform"
  | .unknown => "Unknown"

/-- The stage with a name. -/
def Origin.ofName? : String → Option Origin
  | "Head" => some .head
  | "Tail" => some .tail
  | "Transform" => some .transform
  | "Unknown" => some .unknown
  | _ => none

namespace Kind

/-- The name of a kind. -/
def name : Kind → String
  | .leaf => "Leaf"
  | .conjunction => "Conjunction"
  | .disjunction => "Disjunction"
  | .negation => "Negation"
  | .function => "Function"
  | .transform => "Transform"
  | .check => "Check"
  | .quantifier => "Quantifier"
  | .curried => "Curried"

/-- The kind with a name. -/
def ofName? : String → Option Kind
  | "Leaf" => some .leaf
  | "Conjunction" => some .conjunction
  | "Disjunction" => some .disjunction
  | "Negation" => some .negation
  | "Function" => some .function
  | "Transform" => some .transform
  | "Check" => some .check
  | "Quantifier" => some .quantifier
  | "Curried" => some .curried
  | _ => none

/-- The document of a kind. -/
def toJson (kind : Kind) : Json :=
  .str kind.name

/-- Reads a kind. -/
def ofJson? (json : Json) : Option Kind :=
  json.tag?.bind ofName?

end Kind

namespace Cell

/-- The document of a cell: a name, or an object with one member that holds the content. -/
def toJson : Cell → Json
  | .value v => .obj [("Value", v.toJson)]
  | .thrown failure => .obj [("Thrown", failure.toJson)]
  | .skipped => .str "Skipped"
  | .noFailure => .str "NoFailure"

/-- Reads a cell. -/
def ofJson? (json : Json) : Option Cell :=
  match json with
  | .obj [("Value", content)] => (Value.ofJson? content).map .value
  | .obj [("Thrown", content)] => (Failure.ofJson? content).map .thrown
  | _ =>
    match json.tag? with
    | some "Skipped" => some .skipped
    | some "NoFailure" => some .noFailure
    | _ => none

end Cell

namespace Row

/-- The document of a row. -/
def toJson (row : Row) : Json :=
  .obj
    [("form_name", .str row.form),
      ("nesting_level", .int row.level),
      ("kind", row.kind.toJson),
      ("continued", .bool row.continued),
      ("input_for_expected", row.expected.input.toJson),
      ("input_for_actual", row.actual.input.toJson),
      ("output_for_expected", row.expected.output.toJson),
      ("output_for_actual", row.actual.output.toJson),
      ("detail_expected", .ofOption .str row.expected.detail),
      ("detail_actual", .ofOption .str row.actual.detail),
      ("requires_explanation", .bool row.requiresExplanation),
      ("squashable", .bool row.mergeable),
      ("ignored", .bool row.ignored)]

/-- Reads a row. -/
def ofJson? (json : Json) : Option Row := do
  let form ← json.field? "form_name" Json.str?
  let level ← json.field? "nesting_level" Json.nat?
  let kind ← json.field? "kind" Kind.ofJson?
  let continued ← json.field? "continued" Json.bool?
  let expectedInput ← json.field? "input_for_expected" Cell.ofJson?
  let actualInput ← json.field? "input_for_actual" Cell.ofJson?
  let expectedOutput ← json.field? "output_for_expected" Cell.ofJson?
  let actualOutput ← json.field? "output_for_actual" Cell.ofJson?
  let expectedDetail ← json.nullable? "detail_expected" Json.str?
  let actualDetail ← json.nullable? "detail_actual" Json.str?
  let requiresExplanation ← json.field? "requires_explanation" Json.bool?
  let mergeable ← json.field? "squashable" Json.bool?
  let ignored ← json.field? "ignored" Json.bool?
  some
    { form, level, kind, continued
      expected := { input := expectedInput, output := expectedOutput, detail := expectedDetail }
      actual := { input := actualInput, output := actualOutput, detail := actualDetail }
      requiresExplanation, mergeable, ignored }

end Row

namespace Trace

/-- The document of a trace. -/
def toJson (trace : Trace) : Json :=
  .arr (trace.map Row.toJson)

/-- Reads a trace. -/
def ofJson? (json : Json) : Option Trace :=
  json.arr?.bind (List.mapM Row.ofJson?)

end Trace

end Rationale
