/-
Module: Rationale.Report.Explanation
Purpose: Explanations of an evaluation by what was expected and what came.
Main exports: Section, Report, Report.render, Explanation, Explanation.shownRows,
  Explanation.compose, Explanation.diff, Explanation.display
-/
import Rationale.Report.Columns
import Rationale.Report.Merge
import Rationale.Settings
import Rationale.Text.Lines

namespace Rationale

/-- The long explanation of one row; the same number stands behind the row itself. -/
structure Section where
  index : Nat
  form : String
  text : String
deriving Repr, DecidableEq

/-- One account of an evaluation. -/
structure Report where
  summary : String
  sections : List Section
deriving Repr, DecidableEq

/-- The heading of a numbered detail. -/
def Report.heading (index : Nat) : String :=
  "\n\n.Detail of failure [" ++ toString index ++ "]\n----\n"

/-- The summary and after it every detail. -/
def Report.render (report : Report) : String :=
  report.summary ++
    String.join
      (report.sections.map fun part => Report.heading part.index ++ part.text ++ "\n----")

/-- The expected and the actual account of an evaluation. -/
structure Explanation where
  message : String
  expected : Report
  actual : Report
deriving Repr, DecidableEq

namespace Explanation

/-- What stands before an expected line that has another actual line. -/
def expectedSign : String := "Mismatch<:"

/-- What stands before an actual line that has another expected line. -/
def actualSign : String := "Mismatch>:"

/-- What stands before a line of both accounts. -/
def commonSign : String := .ofList (.replicate expectedSign.length ' ')

/-- Pairs lines by position; the shorter list is filled up with empty lines. -/
def pairLines : List String → List String → List (String × String)
  | [], [] => []
  | e :: es, [] => (e, "") :: pairLines es []
  | [], a :: as => ("", a) :: pairLines [] as
  | e :: es, a :: as => (e, a) :: pairLines es as

/-- The lines that show a pair of lines. -/
def diffLines (pair : String × String) : List String :=
  if pair.1 = pair.2 then [commonSign ++ pair.1]
  else [expectedSign ++ pair.1, actualSign ++ pair.2]

/-- Both summaries in one text: lines on which they agree once, others one after the other. -/
def diff (explanation : Explanation) : String :=
  let pairs :=
    pairLines (Text.lines explanation.expected.summary) (Text.lines explanation.actual.summary)
  Text.unlines (pairs.flatMap diffLines)

/-- The text of a detail from both sides. -/
def pairText (pair : Section × Section) : String :=
  Report.heading pair.1.index ++ "Expected:\n" ++ pair.1.text ++ "\n----\nActual:\n" ++
    pair.2.text ++ "\n----"

/-- The message, the difference and every detail from both sides. -/
def display (explanation : Explanation) : String :=
  explanation.message ++ "\n" ++ explanation.diff ++
    String.join ((explanation.expected.sections.zip explanation.actual.sections).map pairText)

/-- Whether a row is shown. -/
def isShown (settings : Settings) (row : Row) : Bool :=
  settings.debug || !row.ignored || row.requiresExplanation

/-- The rows of a trace that are shown, stages merged with their content. -/
def shownRows (settings : Settings) (trace : Trace) : Trace :=
  (mergeStages trace).filter (isShown settings)

/-- Numbers the rows that have to be explained, from `next` on. -/
def numberFrom (next : Nat) : Trace → List (Option Nat)
  | [] => []
  | row :: rest =>
    if row.requiresExplanation then some next :: numberFrom (next + 1) rest
    else none :: numberFrom next rest

/-- The long explanations of one account of the rows. -/
def sectionsOf (side : Row → Side) (rows : Trace) : List Section :=
  (rows.filter Row.requiresExplanation).mapIdx fun index row =>
    { index, form := row.form, text := (side row).detail.getD "" }

/-- Explains a trace under a message. -/
def compose (settings : Settings) (message : String) (trace : Trace) :
    Except Panic Explanation := do
  let rows := shownRows settings trace
  let (expected, actual) ← Report.layOut settings.cellWidth rows (numberFrom 0 rows)
  return {
    message
    expected := { summary := Text.unlines expected, sections := sectionsOf Row.expected rows }
    actual := { summary := Text.unlines actual, sections := sectionsOf Row.actual rows } }

end Explanation

end Rationale
