/-
Module: Rationale.Report.Columns
Purpose: The rows of a report as aligned lines of text.
Main exports: Report.Line, Report.layOut
-/
import Rationale.Text.Blank
import Rationale.Text.Pad
import Rationale.Trace.Row

namespace Rationale.Report

/-!
A row becomes the line `input->name->output`, with the name indented by the level of the row.  The
expected and the actual account of the rows are laid out with the same column widths, so a row on
which they agree gives the same line on both sides.  An input that repeats that of the line before
is left blank, and blanks at the end of a line are dropped.  A column is as wide as the longest text
in it; a width that a text cannot be padded to leaves the whole report without lines.
-/

/-- The cells of a line. -/
structure Line where
  input : String
  name : String
  output : String
deriving Repr, DecidableEq

/-- The indentation of a name at some levels below the outermost row.  Memory has no bound here; an
indentation that is too long for it ends the program too, at its width if not before. -/
def indentation (levels : Nat) : String :=
  .ofList (.replicate (2 * levels) ' ')

/-- The sign after the output of a row that has a numbered explanation. -/
def markerText : Option Nat → String
  | some index => " [" ++ toString index ++ "]"
  | none => ""

/-- The line of one account of a row. -/
def Line.ofRow (limit base : Nat) (side : Row → Side) (row : Row) (marker : Option Nat) :
    Line where
  input := (side row).input.summarize limit
  name := indentation (row.level - base) ++ row.form
  output := (side row).output.summarize limit ++ markerText marker

/-- Pairs rows with their markers; rows beyond the last marker have none. -/
def pairMarkers : Trace → List (Option Nat) → List (Row × Option Nat)
  | [], _ => []
  | row :: rows, [] => (row, none) :: pairMarkers rows []
  | row :: rows, marker :: markers => (row, marker) :: pairMarkers rows markers

/-- The level of the outermost row. -/
def baseLevel (rows : Trace) : Nat :=
  (rows.map Row.level).min?.getD 0

/-- The number of characters of the longest text. -/
def widthOf (texts : List String) : Nat :=
  (texts.map String.length).foldl max 0

/-- The text of a line whose input is shown as given. -/
def Line.text (inputWidth nameWidth : Nat) (shownInput : String) (line : Line) :
    Except Panic String := do
  let input ← Text.padEnd inputWidth shownInput
  let name ← Text.padEnd nameWidth line.name
  return Text.trimEnd (input ++ "->" ++ name ++ "->" ++ line.output)

/-- The texts of lines; `previous` is the input of the line before. -/
def lineTexts (inputWidth nameWidth : Nat) (previous : Option String) :
    List Line → Except Panic (List String)
  | [] => return []
  | line :: rest => do
    let shownInput := if previous = some line.input then "" else line.input
    let text ← line.text inputWidth nameWidth shownInput
    let texts ← lineTexts inputWidth nameWidth (some line.input) rest
    return text :: texts

/-- The lines of one account of some rows. -/
def linesOfAccount (limit : Nat) (side : Row → Side) (rows : Trace)
    (markers : List (Option Nat)) : List Line :=
  (pairMarkers rows markers).map fun (row, marker) =>
    Line.ofRow limit (baseLevel rows) side row marker

/-- The texts of the lines of the expected and of the actual account of some rows. -/
def layOut (limit : Nat) (rows : Trace) (markers : List (Option Nat)) :
    Except Panic (List String × List String) := do
  let expected := linesOfAccount limit Row.expected rows markers
  let actual := linesOfAccount limit Row.actual rows markers
  let inputWidth := widthOf ((expected ++ actual).map Line.input)
  let nameWidth := widthOf ((expected ++ actual).map Line.name)
  let expectedTexts ← lineTexts inputWidth nameWidth none expected
  let actualTexts ← lineTexts inputWidth nameWidth none actual
  return (expectedTexts, actualTexts)

end Rationale.Report
