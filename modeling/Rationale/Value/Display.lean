/-
Module: Rationale.Value.Display
Purpose: The text of a value in reports and form names.
Main exports: Value.display, Value.summarize
-/
import Rationale.Value.Basic
import Rationale.Decimal.Notation
import Rationale.Text.Clip
import Rationale.Text.Quoted

namespace Rationale.Value

/-!
Parts are joined by commas without spaces.  Texts are quoted, keys are not, so a key may hold any
character, also one that has a meaning here.
-/

/-- Parts joined by commas. -/
def joined (parts : List String) : String :=
  ",".intercalate parts

mutual

/-- The text of a value. -/
def display : Value → String
  | .null => "null"
  | .bool b => if b then "true" else "false"
  | .int i => toString i.toInt
  | .decimal d => d.print
  | .text s => Text.quoted s
  | .list items => "[" ++ joined (displayItems items) ++ "]"
  | .record fields => "\x7b" ++ joined (displayFields fields) ++ "\x7d"
  | .context slots => "context:[" ++ joined (displayItems slots) ++ "]"

/-- The texts of some values. -/
def displayItems : List Value → List String
  | [] => []
  | item :: rest => display item :: displayItems rest

/-- The texts of some fields, each with its key. -/
def displayFields : List (String × Value) → List String
  | [] => []
  | (key, value) :: rest => (key ++ ":" ++ display value) :: displayFields rest

end

/-- The text of a value for a report column of limited width. -/
def summarize (limit : Nat) (value : Value) : String :=
  Text.clip limit value.display

end Rationale.Value
