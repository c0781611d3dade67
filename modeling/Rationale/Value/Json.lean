/-
Module: Rationale.Value.Json
Purpose: Values as JSON documents.
Main exports: Value.toJson, Value.ofJson?
-/
import Rationale.Decimal.Notation
import Rationale.Json
import Rationale.Value.Basic

namespace Rationale

/-!
A value is an object with its type under `type` and its content under `value`; null has no
content.  Decimals travel as strings, so that their scale survives.
-/

/-- The 64-bit integer of a number, if it is in range. -/
def int64? (i : Int) : Option Int64 :=
  if Int64.minValue.toInt ≤ i ∧ i ≤ Int64.maxValue.toInt then some (.ofInt i) else none

namespace Value

/-- An object with a type and a content. -/
def tagged (type : String) (content : Json) : Json :=
  .obj [("type", .str type), ("value", content)]

mutual

/-- The document of a value. -/
def toJson : Value → Json
  | .null => .obj [("type", .str "Null")]
  | .bool b => tagged "Bool" (.bool b)
  | .int i => tagged "Int" (.int i.toInt)
  | .decimal d => tagged "Decimal" (.str d.print)
  | .text s => tagged "Text" (.str s)
  | .list items => tagged "List" (.arr (itemsToJson items))
  | .record fields => tagged "Record" (.obj (fieldsToJson fields))
  | .context slots => tagged "Context" (.arr (itemsToJson slots))

/-- The documents of some values. -/
def itemsToJson : List Value → List Json
  | [] => []
  | item :: rest => toJson item :: itemsToJson rest

/-- The members of some fields. -/
def fieldsToJson : List (String × Value) → List (String × Json)
  | [] => []
  | (key, value) :: rest => (key, toJson value) :: fieldsToJson rest

end

mutual

/-- Reads a value; members other than the type and the content do not matter. -/
def ofJson? : Json → Option Value
  | .obj fields =>
    match fields.lookup "type" with
    | some (.str type) => ofTagged? type fields
    | _ => none
  | _ => none

/-- Reads the value of a known type from the members of its object. -/
def ofTagged? (type : String) : List (String × Json) → Option Value
  | [] => if type = "Null" then some .null else none
  | (key, json) :: rest =>
    if key = "value" then ofContent? type json else ofTagged? type rest

/-- Reads the value of a known type from its content. -/
def ofContent? (type : String) : Json → Option Value
  | .null => if type = "Null" then some .null else none
  | .bool b => if type = "Bool" then some (.bool b) else none
  | .int i =>
    if type = "Int" then (int64? i).map .int
    else if type = "Decimal" then (Decimal.ofLiteral? i 0).map .decimal
    else none
  | .real mantissa places =>
    if type = "Decimal" then (Decimal.ofLiteral? mantissa places).map .decimal else none
  | .str s =>
    if type = "Text" then some (.text s)
    else if type = "Decimal" then (Decimal.read? s).map .decimal
    else none
  | .arr items =>
    if type = "List" then (ofItems? items).map .list
    else if type = "Context" then (ofItems? items).map .context
    else none
  | .obj fields => if type = "Record" then (ofMembers? fields).map ofFields else none

/-- Reads some values. -/
def ofItems? : List Json → Option (List Value)
  | [] => some []
  | json :: rest =>
    match ofJson? json, ofItems? rest with
    | some item, some items => some (item :: items)
    | _, _ => none

/-- Reads some fields, in the order in which they stand. -/
def ofMembers? : List (String × Json) → Option (List (String × Value))
  | [] => some []
  | (key, json) :: rest =>
    match ofJson? json, ofMembers? rest with
    | some value, some fields => some ((key, value) :: fields)
    | _, _ => none

end

end Value

end Rationale
