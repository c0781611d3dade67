/-
Module: Rationale.Proofs.Widths
Purpose: A report has lines if and only if no input and no indented name in it is longer than the
  greatest width that a text can be padded to; which lines it has does not hang on that.
Main exports: Row.Fits, Report.Fits, Report.accountTexts, Report.Delivers,
  Report.delivers_layOut, Explanation.Fits, Explanation.composed, Explanation.delivers_compose
-/
import Rationale.Report.Explanation

namespace Rationale

/-!
### Padding
-/

namespace Text

variable {width : Nat} {text : String}

theorem padEnd_of_le (permitted : width ≤ widthLimit) :
    padEnd width text = .ok (filled width text) :=
  if_pos permitted

theorem padEnd_of_lt (beyond : widthLimit < width) :
    padEnd width text = .error .widthOutOfRange :=
  if_neg (Nat.not_le_of_lt beyond)

theorem length_ofList_replicate (count : Nat) (c : Char) :
    (String.ofList (List.replicate count c)).length = count := by
  rw [String.length_ofList, List.length_replicate]

/-- A name of a given length. -/
def nameOf (length : Nat) : String :=
  .ofList (.replicate length 'x')

theorem widthLimit_lt_length_nameOf : widthLimit < (nameOf 65536).length := by
  rw [nameOf, length_ofList_replicate]
  decide

end Text

namespace Report

/-!
### Lines

In columns to whose widths texts can be padded all lines are printed, and otherwise not even the
first one is.
-/

/-- What a line shows in front of its output. -/
def Line.front (inputWidth nameWidth : Nat) (shownInput : String) (line : Line) : String :=
  Text.filled inputWidth shownInput ++ "->" ++ Text.filled nameWidth line.name ++ "->"

/-- The text of a line, in columns of any width. -/
def Line.shown (inputWidth nameWidth : Nat) (shownInput : String) (line : Line) : String :=
  Text.trimEnd (line.front inputWidth nameWidth shownInput ++ line.output)

/-- The texts of lines, in columns of any width; `previous` is the input of the line before. -/
def shownTexts (inputWidth nameWidth : Nat) (previous : Option String) : List Line → List String
  | [] => []
  | line :: rest =>
    let shownInput := if previous = some line.input then "" else line.input
    line.shown inputWidth nameWidth shownInput ::
      shownTexts inputWidth nameWidth (some line.input) rest

/-- Texts can be padded to the widths of both columns. -/
structure ArePermitted (inputWidth nameWidth : Nat) : Prop where
  input : inputWidth ≤ Text.widthLimit
  name : nameWidth ≤ Text.widthLimit

instance (inputWidth nameWidth : Nat) : Decidable (ArePermitted inputWidth nameWidth) :=
  decidable_of_iff (inputWidth ≤ Text.widthLimit ∧ nameWidth ≤ Text.widthLimit)
    ⟨fun both => ⟨both.1, both.2⟩, fun both => ⟨both.input, both.name⟩⟩

section Lines

variable {inputWidth nameWidth : Nat} {previous : Option String} {shownInput : String} {line : Line}
  {lines : List Line}

theorem Line.text_of_permitted (permitted : ArePermitted inputWidth nameWidth) :
    line.text inputWidth nameWidth shownInput =
      .ok (line.shown inputWidth nameWidth shownInput) := by
  rw [text, Text.padEnd_of_le permitted.input, Text.padEnd_of_le permitted.name]
  rfl

theorem Line.text_of_beyond (beyond : ¬ ArePermitted inputWidth nameWidth) :
    line.text inputWidth nameWidth shownInput = .error .widthOutOfRange := by
  rw [text]
  by_cases input : inputWidth ≤ Text.widthLimit
  · have name : Text.widthLimit < nameWidth := Nat.lt_of_not_le fun name => beyond ⟨input, name⟩
    rw [Text.padEnd_of_le input, Text.padEnd_of_lt name]
    rfl
  · rw [Text.padEnd_of_lt (Nat.lt_of_not_le input)]
    rfl

theorem lineTexts_of_permitted (permitted : ArePermitted inputWidth nameWidth) :
    lineTexts inputWidth nameWidth previous lines =
      .ok (shownTexts inputWidth nameWidth previous lines) := by
  induction lines generalizing previous with
  | nil => rfl
  | cons line rest ih =>
      rw [lineTexts, Line.text_of_permitted permitted, ih]
      rfl

theorem lineTexts_of_beyond (beyond : ¬ ArePermitted inputWidth nameWidth)
    (occupied : lines ≠ []) :
    lineTexts inputWidth nameWidth previous lines = .error .widthOutOfRange := by
  cases lines with
  | nil => exact absurd rfl occupied
  | cons line rest =>
      rw [lineTexts, Line.text_of_beyond beyond]
      rfl

end Lines

/-!
### Widths

The widths are those of the longest texts, so a report fits if each of its rows does.
-/

theorem foldl_max_le_iff {start bound : Nat} {lengths : List Nat} :
    lengths.foldl max start ≤ bound ↔ start ≤ bound ∧ ∀ length ∈ lengths, length ≤ bound := by
  induction lengths generalizing start with
  | nil => simp
  | cons first rest ih => rw [List.foldl_cons, ih, Nat.max_le, List.forall_mem_cons, and_assoc]

theorem widthOf_le_iff {texts : List String} {bound : Nat} :
    widthOf texts ≤ bound ↔ ∀ text ∈ texts, text.length ≤ bound := by
  rw [widthOf, foldl_max_le_iff, List.forall_mem_map, and_iff_right (Nat.zero_le bound)]

theorem map_fst_pairMarkers (rows : Trace) (markers : List (Option Nat)) :
    (pairMarkers rows markers).map Prod.fst = rows := by
  fun_induction pairMarkers rows markers with
  | case1 => rfl
  | case2 row rows ih => rw [List.map_cons, ih]
  | case3 row rows marker markers ih => rw [List.map_cons, ih]

theorem length_indented (levels : Nat) (form : String) :
    (indentation levels ++ form).length = 2 * levels + form.length := by
  rw [String.length_append, indentation, Text.length_ofList_replicate]

end Report

/-- What a line shows of a row in front of its output is not longer than the greatest width of a
column, neither in the expected nor in the actual account of it; `base` is the level of the
outermost row. -/
structure Row.Fits (limit base : Nat) (row : Row) : Prop where
  expectedInput : (row.expected.input.summarize limit).length ≤ Text.widthLimit
  actualInput : (row.actual.input.summarize limit).length ≤ Text.widthLimit
  name : 2 * (row.level - base) + row.form.length ≤ Text.widthLimit

namespace Report

/-- Every row fits the columns. -/
def Fits (limit : Nat) (rows : Trace) : Prop :=
  ∀ row ∈ rows, row.Fits limit (baseLevel rows)

section Accounts

variable (limit : Nat) (rows : Trace) (markers : List (Option Nat))

/-- The width of the column of the inputs. -/
def inputColumn : Nat :=
  widthOf ((linesOfAccount limit Row.expected rows markers ++
    linesOfAccount limit Row.actual rows markers).map Line.input)

/-- The width of the column of the names. -/
def nameColumn : Nat :=
  widthOf ((linesOfAccount limit Row.expected rows markers ++
    linesOfAccount limit Row.actual rows markers).map Line.name)

/-- The texts of the lines of one account, also where the columns are too wide to print them. -/
def accountTexts (side : Row → Side) : List String :=
  shownTexts (inputColumn limit rows markers) (nameColumn limit rows markers) none
    (linesOfAccount limit side rows markers)

variable {limit rows markers} {side : Row → Side} {bound : Nat}

theorem map_input_linesOfAccount :
    (linesOfAccount limit side rows markers).map Line.input =
      rows.map fun row => (side row).input.summarize limit := by
  conv => rhs; rw [← map_fst_pairMarkers rows markers]
  rw [linesOfAccount, List.map_map, List.map_map]
  rfl

theorem map_name_linesOfAccount :
    (linesOfAccount limit side rows markers).map Line.name =
      rows.map fun row => indentation (row.level - baseLevel rows) ++ row.form := by
  conv => rhs; arg 2; rw [← map_fst_pairMarkers rows markers]
  rw [linesOfAccount, List.map_map, List.map_map]
  rfl

theorem inputColumn_le_iff :
    inputColumn limit rows markers ≤ bound ↔
      (∀ row ∈ rows, (row.expected.input.summarize limit).length ≤ bound) ∧
        ∀ row ∈ rows, (row.actual.input.summarize limit).length ≤ bound := by
  rw [inputColumn, widthOf_le_iff, List.map_append, map_input_linesOfAccount,
    map_input_linesOfAccount, List.forall_mem_append, List.forall_mem_map, List.forall_mem_map]

theorem nameColumn_le_iff :
    nameColumn limit rows markers ≤ bound ↔
      ∀ row ∈ rows, 2 * (row.level - baseLevel rows) + row.form.length ≤ bound := by
  rw [nameColumn, widthOf_le_iff, List.map_append, map_name_linesOfAccount,
    map_name_linesOfAccount, List.forall_mem_append, and_self, List.forall_mem_map]
  simp only [length_indented]

theorem fits_iff :
    Fits limit rows ↔
      ArePermitted (inputColumn limit rows markers) (nameColumn limit rows markers) := by
  constructor
  · intro fits
    constructor
    · exact inputColumn_le_iff.mpr ⟨fun row member => (fits row member).expectedInput,
        fun row member => (fits row member).actualInput⟩
    · exact nameColumn_le_iff.mpr fun row member => (fits row member).name
  · rintro ⟨input, name⟩ row member
    obtain ⟨expected, actual⟩ := inputColumn_le_iff.mp input
    exact ⟨expected row member, actual row member, nameColumn_le_iff.mp name row member⟩

instance (limit : Nat) (rows : Trace) : Decidable (Fits limit rows) :=
  decidable_of_iff _ (@fits_iff limit rows []).symm

/-- A name that is too long by itself does not fit, however little it is indented. -/
theorem not_fits_of_long {row : Row} (member : row ∈ rows)
    (long : Text.widthLimit < row.form.length) : ¬ Fits limit rows := by
  intro fits
  have name := (fits row member).name
  omega

theorem layOut_eq :
    layOut limit rows markers = do
      let expectedTexts ← lineTexts (inputColumn limit rows markers) (nameColumn limit rows markers)
        none (linesOfAccount limit Row.expected rows markers)
      let actualTexts ← lineTexts (inputColumn limit rows markers) (nameColumn limit rows markers)
        none (linesOfAccount limit Row.actual rows markers)
      return (expectedTexts, actualTexts) :=
  rfl

theorem layOut_of_fits (fits : Fits limit rows) :
    layOut limit rows markers =
      .ok (accountTexts limit rows markers Row.expected,
        accountTexts limit rows markers Row.actual) := by
  have permitted := (@fits_iff limit rows markers).mp fits
  rw [layOut_eq, lineTexts_of_permitted permitted, lineTexts_of_permitted permitted]
  rfl

theorem layOut_of_beyond (beyond : ¬ Fits limit rows) :
    layOut limit rows markers = .error .widthOutOfRange := by
  have occupied : linesOfAccount limit Row.expected rows markers ≠ [] := by
    intro empty
    have none := @map_input_linesOfAccount limit rows markers Row.expected
    rw [empty, List.map_nil, eq_comm, List.map_eq_nil_iff] at none
    rw [none] at beyond
    exact beyond fun row member => absurd member List.not_mem_nil
  rw [layOut_eq, lineTexts_of_beyond (mt fits_iff.mpr beyond) occupied]
  rfl

end Accounts

/-- A run comes to a result that meets a specification if the columns of the report fit, and ends in
a panic otherwise. -/
structure Delivers {Result : Type} (fits : Prop) (run : Except Panic Result)
    (meets : Result → Prop) : Prop where
  returns : fits → ∃ result, run = .ok result ∧ meets result
  panics : ¬ fits → run = .error .widthOutOfRange

theorem delivers_layOut {limit : Nat} {rows : Trace} {markers : List (Option Nat)}
    {meets : List String × List String → Prop}
    (met : meets (accountTexts limit rows markers Row.expected,
      accountTexts limit rows markers Row.actual)) :
    Delivers (Fits limit rows) (layOut limit rows markers) meets where
  returns fits := ⟨_, layOut_of_fits fits, met⟩
  panics := layOut_of_beyond

end Report

namespace Explanation

/-- What is shown of a trace fits the columns of its report. -/
def Fits (settings : Settings) (trace : Trace) : Prop :=
  Report.Fits settings.cellWidth (shownRows settings trace)

instance (settings : Settings) (trace : Trace) : Decidable (Fits settings trace) :=
  inferInstanceAs (Decidable (Report.Fits _ _))

/-- The texts of the lines of one account of what is shown of a trace. -/
def summaryTexts (settings : Settings) (trace : Trace) (side : Row → Side) : List String :=
  Report.accountTexts settings.cellWidth (shownRows settings trace)
    (numberFrom 0 (shownRows settings trace)) side

/-- The explanation of a trace, also where the columns are too wide to print it. -/
def composed (settings : Settings) (message : String) (trace : Trace) : Explanation :=
  let report (side : Row → Side) : Report :=
    { summary := Text.unlines (summaryTexts settings trace side)
      sections := sectionsOf side (shownRows settings trace) }
  { message, expected := report Row.expected, actual := report Row.actual }

section Composing

variable {settings : Settings} {message : String} {trace : Trace}

theorem compose_of_fits (fits : Fits settings trace) :
    compose settings message trace = .ok (composed settings message trace) := by
  rw [compose, Report.layOut_of_fits fits]
  rfl

theorem compose_of_beyond (beyond : ¬ Fits settings trace) :
    compose settings message trace = .error .widthOutOfRange := by
  rw [compose, Report.layOut_of_beyond beyond]
  rfl

/-- A row that is shown under a name that is too long by itself leaves no explanation at all. -/
theorem compose_of_long {row : Row} (shown : row ∈ shownRows settings trace)
    (long : Text.widthLimit < row.form.length) :
    compose settings message trace = .error .widthOutOfRange :=
  compose_of_beyond (Report.not_fits_of_long shown long)

theorem delivers_compose {meets : Explanation → Prop}
    (met : meets (composed settings message trace)) :
    Report.Delivers (Fits settings trace) (compose settings message trace) meets where
  returns fits := ⟨_, compose_of_fits fits, met⟩
  panics := compose_of_beyond

end Composing

end Explanation

end Rationale
