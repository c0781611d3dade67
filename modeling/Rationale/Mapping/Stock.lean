/-
Module: Rationale.Mapping.Stock
Purpose: The mappings that come with the library.
Main exports: Mapping.length, Mapping.trim, Mapping.parseInt, Mapping.elementAt, Mapping.stringify
-/
import Rationale.Mapping
import Rationale.Numeral
import Rationale.Text.Blank
import Rationale.Text.LetterCase

namespace Rationale.Mapping

/-- The number of characters of a text. -/
def length : Mapping :=
  new "length" fun value => value.text?.map fun text => .int (.ofNat text.length)

/-- The number of items of a list or of slots of a context. -/
def size : Mapping :=
  new "size" fun
    | .list items | .context items => .ok (.int (.ofNat items.length))
    | other => .error (.typeMismatch "List" other)

/-- The upper case of a text. -/
def toUpperCase : Mapping :=
  new "toUpperCase" fun value => value.text?.map fun text => .text (Text.upper text)

/-- The lower case of a text. -/
def toLowerCase : Mapping :=
  new "toLowerCase" fun value => value.text?.map fun text => .text (Text.lower text)

/-- The text without the white space at its ends. -/
def trim : Mapping :=
  new "trim" fun value => value.text?.map fun text => .text (Text.trim text)

/-- The failure to read a numeral. -/
def numeralFailure (problem : Numeral.Problem) : Failure :=
  .ofError "ParseIntError" problem.message []

/-- The integer that a text shows, with white space around it. -/
def parseInt : Mapping :=
  new "parseInt" fun value => do
    let text ← value.text?
    match Numeral.read (Text.trim text) with
    | .ok i => .ok (.int i)
    | .error problem => .error (numeralFailure problem)

/-- The item of a list at a position. -/
def elementAt (index : Nat) : Mapping :=
  new ("elementAt[" ++ toString index ++ "]") fun value => do
    let items ← value.list?
    match items[index]? with
    | some item => .ok item
    | none =>
      .error
        { kind := "IndexOutOfBounds"
          message := "index " ++ toString index ++ " out of bounds for length " ++
            toString items.length }

/-- The text of a value, where a text stands for itself. -/
def stringify : Mapping :=
  new "stringify" fun
    | .text text => .ok (.text text)
    | other => .ok (.text other.display)

end Rationale.Mapping
