/-
Module: Rationale.Proofs.Difference
Purpose: As long as the texts that a report shows without quotes hold no line feed, the two
  summaries have one line for each row, and their difference goes row by row.
Main exports: Value.keys, Row.bareTexts, Text.Feedless, Report.lines_accountLines, Report.rowDiff,
  Explanation.GoesRowByRow, Tree.evaluate_diff
-/
import Rationale.Check.Stock
import Rationale.Proofs.Markers
import Rationale.Proofs.Visible

namespace Rationale

/-!
### Texts without quotes

Texts in values are quoted, and numbers hold digits, signs and points only.  What is left are the
names of parts, the kinds of failures, and the keys of records.
-/

namespace Value

mutual

/-- The keys of all records in a value. -/
def keys : Value → List String
  | .list items => keysOfItems items
  | .record fields => keysOfFields fields
  | .context slots => keysOfItems slots
  | _ => []

/-- The keys of all records in some values. -/
def keysOfItems : List Value → List String
  | [] => []
  | item :: rest => keys item ++ keysOfItems rest

/-- The keys of some fields and of all records in their values. -/
def keysOfFields : List (String × Value) → List String
  | [] => []
  | (key, value) :: rest => key :: (keys value ++ keysOfFields rest)

end

end Value

/-- The texts in a cell that a report shows without quotes. -/
def Cell.bareTexts : Cell → List String
  | .value content => content.keys
  | .thrown failure => [failure.kind]
  | .skipped | .noFailure => []

/-- The texts in one account of a row that a report shows without quotes. -/
def Side.bareTexts (side : Side) : List String :=
  side.input.bareTexts ++ side.output.bareTexts

/-- The texts in a row that a report shows without quotes: its name, and the kinds of failures and
the keys of records in its cells. -/
def Row.bareTexts (row : Row) : List String :=
  row.form :: (row.expected.bareTexts ++ row.actual.bareTexts)

/-- None of the texts holds a line feed. -/
def Text.Feedless (texts : List String) : Prop :=
  ∀ text ∈ texts, '\n' ∉ text.toList

instance (texts : List String) : Decidable (Text.Feedless texts) :=
  inferInstanceAs (Decidable (∀ text ∈ texts, '\n' ∉ text.toList))

theorem Text.feedless_append {first second : List String} :
    Feedless (first ++ second) ↔ Feedless first ∧ Feedless second :=
  List.forall_mem_append

theorem Text.feedless_cons {text : String} {rest : List String} :
    Feedless (text :: rest) ↔ '\n' ∉ text.toList ∧ Feedless rest :=
  List.forall_mem_cons

/-!
### Written values
-/

theorem Text.feed_not_mem_quoted (text : String) : '\n' ∉ (quoted text).toList := by
  have escaped : ∀ c : Char, '\n' ∉ escape c := by
    intro c
    have digits := feed_not_mem_toDigits (show 1 < 16 by decide) c.toNat
    unfold escape
    split
    case h_7 noFeed _ _ _ =>
      split
      · simpa using fun same => noFeed same.symm
      · simp [digits]
    all_goals decide
  simp [quoted, escaped]

theorem Decimal.feed_not_mem_placePoint {digits : List Char} (scale : Nat)
    (feedless : '\n' ∉ digits) : '\n' ∉ placePoint scale digits := by
  rw [placePoint]
  generalize padding : List.replicate (scale + 1 - digits.length) '0' ++ digits = padded
  have inside : '\n' ∉ padded := by
    rw [← padding]
    simp [feedless]
  have whole (count : Nat) : '\n' ∉ padded.take count :=
    fun member => inside (List.mem_of_mem_take member)
  have fraction (count : Nat) : '\n' ∉ padded.drop count :=
    fun member => inside (List.mem_of_mem_drop member)
  split
  · exact whole _
  · simp [whole, fraction]

theorem Decimal.feed_not_mem_print (decimal : Decimal) : '\n' ∉ decimal.print.toList := by
  have digits := Text.feed_not_mem_toDigits (show 1 < 10 by decide) decimal.mantissa
  have pointed := feed_not_mem_placePoint decimal.scale digits
  rw [print, String.toList_ofList, plain]
  cases decimal.negative <;> simp [pointed]

theorem Int.feed_not_mem_toString (number : Int) : '\n' ∉ (toString number).toList := by
  have digits := Text.feed_not_mem_toDigits (show 1 < 10 by decide)
  cases number with
  | ofNat magnitude =>
      change '\n' ∉ magnitude.repr.toList
      simp [digits]
  | negSucc magnitude =>
      change '\n' ∉ ("-" ++ (magnitude + 1).repr).toList
      simp [digits]

theorem Text.feed_not_mem_intercalate {separator : String} {texts : List String}
    (flat : '\n' ∉ separator.toList) (feedless : Feedless texts) :
    '\n' ∉ (separator.intercalate texts).toList := by
  rw [String.toList_intercalate]
  induction texts with
  | nil => simp
  | cons text rest ih =>
      obtain ⟨here, later⟩ := feedless_cons.mp feedless
      cases rest with
      | nil => simpa using here
      | cons next rest =>
          have joined := ih later
          rw [List.map_cons] at joined
          simp [List.intercalate_cons_cons, here, flat, joined]

theorem Text.feed_not_mem_clip {limit : Nat} {text : String} (feedless : '\n' ∉ text.toList) :
    '\n' ∉ (clip limit text).toList := by
  rw [clip]
  split
  · exact feedless
  · have kept (count : Nat) : '\n' ∉ text.toList.take count :=
      fun member => feedless (List.mem_of_mem_take member)
    rw [String.toList_append, String.toList_ofList, List.mem_append, not_or]
    exact ⟨kept _, by decide⟩

theorem Text.feed_not_mem_filled {width : Nat} {text : String} (feedless : '\n' ∉ text.toList) :
    '\n' ∉ (filled width text).toList := by
  simp [filled, feedless]

namespace Value

theorem feed_not_mem_joined {parts : List String} (feedless : Text.Feedless parts) :
    '\n' ∉ (joined parts).toList :=
  Text.feed_not_mem_intercalate (by decide) feedless

mutual

theorem feed_not_mem_display : ∀ value : Value, Text.Feedless value.keys →
    '\n' ∉ value.display.toList
  | .null, _ => by decide
  | .bool answer, _ => by cases answer <;> decide
  | .int number, _ => Int.feed_not_mem_toString number.toInt
  | .decimal number, _ => number.feed_not_mem_print
  | .text content, _ => Text.feed_not_mem_quoted content
  | .list items, feedless => by
      have inside := feedless_displayItems items feedless
      simp [display, feed_not_mem_joined inside]
  | .record fields, feedless => by
      have inside := feedless_displayFields fields feedless
      simp [display, feed_not_mem_joined inside]
  | .context slots, feedless => by
      have inside := feedless_displayItems slots feedless
      simp [display, feed_not_mem_joined inside]

theorem feedless_displayItems : ∀ items : List Value, Text.Feedless (keysOfItems items) →
    Text.Feedless (displayItems items)
  | [], _ => by simp [displayItems, Text.Feedless]
  | item :: rest, feedless => by
      obtain ⟨here, later⟩ := Text.feedless_append.mp feedless
      exact Text.feedless_cons.mpr
        ⟨feed_not_mem_display item here, feedless_displayItems rest later⟩

theorem feedless_displayFields : ∀ fields : List (String × Value),
    Text.Feedless (keysOfFields fields) → Text.Feedless (displayFields fields)
  | [], _ => by simp [displayFields, Text.Feedless]
  | (key, value) :: rest, feedless => by
      obtain ⟨named, inside⟩ := Text.feedless_cons.mp feedless
      obtain ⟨here, later⟩ := Text.feedless_append.mp inside
      refine Text.feedless_cons.mpr ⟨?_, feedless_displayFields rest later⟩
      simp [named, feed_not_mem_display value here]

end

end Value

theorem Cell.feed_not_mem_summarize {limit : Nat} {cell : Cell}
    (feedless : Text.Feedless cell.bareTexts) : '\n' ∉ (cell.summarize limit).toList := by
  cases cell with
  | value content => exact Text.feed_not_mem_clip (content.feed_not_mem_display feedless)
  | thrown failure => exact feedless failure.kind (List.mem_singleton_self _)
  | skipped =>
      rw [summarize]
      decide
  | noFailure =>
      rw [summarize]
      decide

/-!
### Lines

Every line of a layout is the text of its row, with the input shown or left blank.  It ends in ink,
and holds no line feed if the texts of the row hold none, so it is one line of the summary.
-/

namespace Report

section Layouts

variable {limit base inputWidth nameWidth : Nat} {side : Row → Side} {previous : Option String}
  {marked : List (Row × Option Nat)} {text : String}

/-- The lines of one account of rows with their markers; `previous` is the input of the line
before. -/
def accountLines (limit base inputWidth nameWidth : Nat) (side : Row → Side)
    (previous : Option String) (marked : List (Row × Option Nat)) : List String :=
  shownTexts inputWidth nameWidth previous
    (marked.map fun (row, marker) => Line.ofRow limit base side row marker)

theorem exists_line_of_mem_shownTexts {lines : List Line}
    (member : text ∈ shownTexts inputWidth nameWidth previous lines) :
    ∃ line ∈ lines, ∃ shownInput, (shownInput = "" ∨ shownInput = line.input) ∧
      text = line.shown inputWidth nameWidth shownInput := by
  induction lines generalizing previous with
  | nil => cases member
  | cons line rest ih =>
      rcases List.mem_cons.mp member with rfl | later
      · refine ⟨line, List.mem_cons_self, _, ?_, rfl⟩
        split
        · exact Or.inl rfl
        · exact Or.inr rfl
      · obtain ⟨other, isLine, shown⟩ := ih later
        exact ⟨other, List.mem_cons_of_mem line isLine, shown⟩

theorem isSolid_of_mem_accountLines
    (member : text ∈ accountLines limit base inputWidth nameWidth side previous marked) :
    Text.IsSolid text.toList := by
  obtain ⟨line, -, shownInput, -, rfl⟩ := exists_line_of_mem_shownTexts member
  rw [Line.toList_shown]
  exact Text.isSolid_append_dropBlankEnd (Line.isSolid_front _ _ _ _) _

/-- A line whose input and name hold no line feed holds only those of its output. -/
theorem Line.feed_not_mem_shown {line : Line} {shownInput : String}
    (input : '\n' ∉ shownInput.toList) (name : '\n' ∉ line.name.toList)
    (output : '\n' ∉ Text.dropBlankEnd line.output.toList) :
    '\n' ∉ (line.shown inputWidth nameWidth shownInput).toList := by
  have padded : '\n' ∉ (Text.filled inputWidth shownInput).toList :=
    Text.feed_not_mem_filled input
  have named : '\n' ∉ (Text.filled nameWidth line.name).toList :=
    Text.feed_not_mem_filled name
  rw [toList_shown, front]
  simp [padded, named, output]

/-- The texts that an account of a row shows without quotes hold no line feed. -/
def IsFeedless (side : Row → Side) (row : Row) : Prop :=
  Text.Feedless (row.form :: (side row).bareTexts)

theorem feed_not_mem_of_mem_accountLines (feedless : ∀ pair ∈ marked, IsFeedless side pair.1)
    (member : text ∈ accountLines limit base inputWidth nameWidth side previous marked) :
    '\n' ∉ text.toList := by
  obtain ⟨line, isLine, shownInput, shown, rfl⟩ := exists_line_of_mem_shownTexts member
  obtain ⟨⟨row, marker⟩, isPair, rfl⟩ := List.mem_map.mp isLine
  obtain ⟨named, cells⟩ := Text.feedless_cons.mp (feedless (row, marker) isPair)
  obtain ⟨input, output⟩ := Text.feedless_append.mp cells
  refine Line.feed_not_mem_shown ?_ ?_ ?_
  · rcases shown with rfl | rfl
    · decide
    · exact Cell.feed_not_mem_summarize input
  · simp [Line.ofRow, indentation, named]
  · exact feed_not_mem_shownOutput (Cell.feed_not_mem_summarize output)

theorem lines_accountLines (feedless : ∀ pair ∈ marked, IsFeedless side pair.1) :
    Text.lines (Text.unlines (accountLines limit base inputWidth nameWidth side previous marked)) =
      accountLines limit base inputWidth nameWidth side previous marked :=
  Text.lines_unlines_of_feedless (fun _ member => isSolid_of_mem_accountLines member)
    fun _ member => feed_not_mem_of_mem_accountLines feedless member

end Layouts

/-!
### Row by row

The two lines of a row have the same text in front of the output, so they are the same if and only
if the outputs look the same.
-/

/-- The line shows the row with its marker as the account tells it. -/
def ReadsRow (limit : Nat) (side : Row → Side) (pair : Row × Option Nat) (line : String) : Prop :=
  Reads pair.1.form (.ofList (shownOutput limit side pair.1 pair.2)) line

/-- What the difference of both summaries has for a row with its marker and its two lines: one line
if the outputs look the same, and otherwise a pair of lines. -/
def rowDiff (limit : Nat) : (Row × Option Nat) × (String × String) → List String
  | ((row, marker), (expected, actual)) =>
    if shownOutput limit Row.expected row marker = shownOutput limit Row.actual row marker then
      [Explanation.commonSign ++ expected]
    else [Explanation.expectedSign ++ expected, Explanation.actualSign ++ actual]

section Pairs

variable {limit base inputWidth nameWidth : Nat}

/-- The two lines of a row agree if and only if its outputs look the same. -/
theorem diffLines_eq_rowDiff {row : Row} {marker : Option Nat} {shownInput expected actual : String}
    (isExpected : expected =
      (Line.ofRow limit base Row.expected row marker).shown inputWidth nameWidth shownInput)
    (isActual : actual =
      (Line.ofRow limit base Row.actual row marker).shown inputWidth nameWidth shownInput) :
    Explanation.diffLines (expected, actual) =
      rowDiff limit ((row, marker), (expected, actual)) := by
  have front : (Line.ofRow limit base Row.expected row marker).front inputWidth nameWidth
      shownInput = (Line.ofRow limit base Row.actual row marker).front inputWidth nameWidth
        shownInput := rfl
  have agree : expected = actual ↔
      shownOutput limit Row.expected row marker = shownOutput limit Row.actual row marker := by
    rw [isExpected, isActual, ← String.toList_inj, Line.toList_shown, Line.toList_shown, front,
      List.append_cancel_left_eq]
    rfl
  simp only [Explanation.diffLines, rowDiff, agree]

/-- The difference of the two accounts of aligned rows goes row by row. -/
theorem diffLines_accountLines {marked : List (Row × Option Nat)} (previous : Option String)
    (aligned : ∀ pair ∈ marked, pair.1.actual.input = pair.1.expected.input) :
    ((accountLines limit base inputWidth nameWidth Row.expected previous marked).zip
        (accountLines limit base inputWidth nameWidth Row.actual previous marked)).flatMap
        Explanation.diffLines =
      (marked.zip
        ((accountLines limit base inputWidth nameWidth Row.expected previous marked).zip
          (accountLines limit base inputWidth nameWidth Row.actual previous marked))).flatMap
        (rowDiff limit) := by
  induction marked generalizing previous with
  | nil => rfl
  | cons pair rest ih =>
      obtain ⟨row, marker⟩ := pair
      have here : row.actual.input = row.expected.input :=
        aligned (row, marker) List.mem_cons_self
      have input : (Line.ofRow limit base Row.actual row marker).input =
          (Line.ofRow limit base Row.expected row marker).input := by
        rw [Line.ofRow, Line.ofRow, here]
      have later := fun previous =>
        ih previous fun other member => aligned other (List.mem_cons_of_mem _ member)
      simp only [accountLines] at later
      simp only [accountLines, List.map_cons, shownTexts, input, List.zip_cons_cons,
        List.flatMap_cons]
      rw [diffLines_eq_rowDiff rfl rfl, later]

/-- The lines of both accounts of some rows, in columns of the same widths. -/
theorem exists_accountTexts_eq (limit : Nat) (rows : Trace) (markers : List (Option Nat)) :
    ∃ base inputWidth nameWidth, ∀ side, accountTexts limit rows markers side =
      accountLines limit base inputWidth nameWidth side none (pairMarkers rows markers) :=
  ⟨_, _, _, fun _ => rfl⟩

/-- Everything that the difference has for a row is one of its lines behind a sign. -/
theorem exists_of_mem_rowDiff {pair : Row × Option Nat} {expected actual text : String}
    (member : text ∈ rowDiff limit (pair, (expected, actual))) :
    ∃ sign line, '\n' ∉ sign.toList ∧ (line = expected ∨ line = actual) ∧ text = sign ++ line := by
  rw [rowDiff] at member
  split at member
  · obtain rfl := List.mem_singleton.mp member
    exact ⟨_, _, by decide, Or.inl rfl, rfl⟩
  · rcases List.mem_pair.mp member with rfl | rfl
    · exact ⟨_, _, by decide, Or.inl rfl, rfl⟩
    · exact ⟨_, _, by decide, Or.inr rfl, rfl⟩

/-- If every line ends in ink and holds no line feed, so does everything that the difference has. -/
theorem lines_rowDiff {marked : List (Row × Option Nat)} {expected actual : List String}
    (solid : ∀ line, line ∈ expected ∨ line ∈ actual → Text.IsSolid line.toList)
    (feedless : ∀ line, line ∈ expected ∨ line ∈ actual → '\n' ∉ line.toList) :
    Text.lines (Text.unlines ((marked.zip (expected.zip actual)).flatMap (rowDiff limit))) =
      (marked.zip (expected.zip actual)).flatMap (rowDiff limit) := by
  have each : ∀ text ∈ (marked.zip (expected.zip actual)).flatMap (rowDiff limit),
      ∃ sign line, '\n' ∉ sign.toList ∧ (line ∈ expected ∨ line ∈ actual) ∧
        text = sign ++ line := by
    intro text member
    obtain ⟨⟨pair, above, below⟩, listed, inside⟩ := List.mem_flatMap.mp member
    obtain ⟨isExpected, isActual⟩ := List.of_mem_zip (List.of_mem_zip listed).2
    obtain ⟨sign, line, flat, isLine, rfl⟩ := exists_of_mem_rowDiff inside
    refine ⟨sign, line, flat, ?_, rfl⟩
    rcases isLine with rfl | rfl
    · exact Or.inl isExpected
    · exact Or.inr isActual
  apply Text.lines_unlines_of_feedless
  · intro text member
    obtain ⟨sign, line, -, isLine, rfl⟩ := each text member
    rw [String.toList_append]
    exact (solid line isLine).append _
  · intro text member
    obtain ⟨sign, line, flat, isLine, rfl⟩ := each text member
    simp [flat, feedless line isLine]

end Pairs

end Report

/-!
### Traces

A merged row has its name from both rows, its inputs from the first and its outputs from the second,
so merging brings no line feed in.
-/

theorem Row.feedless_absorb {first second : Row} (feedless : Text.Feedless first.bareTexts)
    (alsoFeedless : Text.Feedless second.bareTexts) :
    Text.Feedless (first.absorb second).bareTexts := by
  simp only [bareTexts, Side.bareTexts, Text.feedless_cons, Text.feedless_append] at *
  obtain ⟨form, ⟨expectedInput, -⟩, actualInput, -⟩ := feedless
  obtain ⟨alsoForm, ⟨-, expectedOutput⟩, -, actualOutput⟩ := alsoFeedless
  refine ⟨?_, ⟨expectedInput, expectedOutput⟩, actualInput, actualOutput⟩
  simp [absorb, form, alsoForm]

theorem feedless_of_mem_mergeStages {trace : Trace}
    (feedless : ∀ row ∈ trace, Text.Feedless row.bareTexts) {row : Row}
    (member : row ∈ mergeStages trace) : Text.Feedless row.bareTexts := by
  obtain ⟨run, isRun, rfl⟩ := Trace.exists_run member
  have each := fun row inside => feedless row (Trace.mem_of_mem_members isRun inside)
  cases run with
  | single row => exact each row (by simp [Run.members])
  | merged stage content absorbs =>
      exact Row.feedless_absorb (each stage (by simp [Run.members]))
        (each content (by simp [Run.members]))

theorem Row.isFeedless_of_bareTexts {row : Row} (feedless : Text.Feedless row.bareTexts) :
    Report.IsFeedless Row.expected row ∧ Report.IsFeedless Row.actual row := by
  obtain ⟨form, cells⟩ := Text.feedless_cons.mp feedless
  obtain ⟨expected, actual⟩ := Text.feedless_append.mp cells
  exact ⟨Text.feedless_cons.mpr ⟨form, expected⟩, Text.feedless_cons.mpr ⟨form, actual⟩⟩

/-!
### Explanations
-/

namespace Explanation

theorem pairLines_eq_zip {expected actual : List String}
    (same : expected.length = actual.length) : pairLines expected actual = expected.zip actual := by
  fun_induction pairLines expected actual with
  | case1 => rfl
  | case2 line rest ih => cases same
  | case3 line rest ih => cases same
  | case4 line rest other others ih => rw [ih (Nat.succ.inj same), List.zip_cons_cons]

/-- The two lists of lines show the rows with their markers one by one, and the difference of the
explanation goes through them row by row. -/
structure GoesRowByRow (limit : Nat) (explanation : Explanation)
    (marked : List (Row × Option Nat)) (expected actual : List String) : Prop where
  /-- Each expected line is that of its row. -/
  expectedReads : List.Forall₂ (Report.ReadsRow limit Row.expected) marked expected
  /-- Each actual line is that of its row. -/
  actualReads : List.Forall₂ (Report.ReadsRow limit Row.actual) marked actual
  /-- The difference has what it has for the rows, one after the other. -/
  diff_eq : explanation.diff =
    Text.unlines ((marked.zip (expected.zip actual)).flatMap (Report.rowDiff limit))
  /-- All that it has for the rows are lines. -/
  lines_diff : Text.lines explanation.diff =
    (marked.zip (expected.zip actual)).flatMap (Report.rowDiff limit)

/-- An explanation of aligned rows without line feeds goes row by row. -/
theorem goesRowByRow {limit : Nat} {explanation : Explanation} {rows : Trace}
    {markers : List (Option Nat)}
    (isExpected : explanation.expected.summary =
      Text.unlines (Report.accountTexts limit rows markers Row.expected))
    (isActual : explanation.actual.summary =
      Text.unlines (Report.accountTexts limit rows markers Row.actual))
    (aligned : ∀ row ∈ rows, row.actual.input = row.expected.input)
    (feedless : ∀ row ∈ rows, Text.Feedless row.bareTexts) :
    explanation.GoesRowByRow limit (Report.pairMarkers rows markers)
      (Text.lines explanation.expected.summary) (Text.lines explanation.actual.summary) := by
  obtain ⟨base, inputWidth, nameWidth, laid⟩ := Report.exists_accountTexts_eq limit rows markers
  rw [laid] at isExpected isActual
  have inRows : ∀ pair ∈ Report.pairMarkers rows markers, pair.1 ∈ rows :=
    fun pair member => Report.mem_of_mem_pairMarkers member
  generalize Report.pairMarkers rows markers = marked at isExpected isActual inRows ⊢
  have flatExpected := fun pair member =>
    (Row.isFeedless_of_bareTexts (feedless _ (inRows pair member))).1
  have flatActual := fun pair member =>
    (Row.isFeedless_of_bareTexts (feedless _ (inRows pair member))).2
  have expectedLines : Text.lines explanation.expected.summary = Report.accountLines limit base
      inputWidth nameWidth Row.expected none marked := by
    rw [isExpected, Report.lines_accountLines flatExpected]
  have actualLines : Text.lines explanation.actual.summary = Report.accountLines limit base
      inputWidth nameWidth Row.actual none marked := by
    rw [isActual, Report.lines_accountLines flatActual]
  have expectedReads : List.Forall₂ (Report.ReadsRow limit Row.expected) marked
      (Text.lines explanation.expected.summary) := by
    rw [expectedLines]
    exact Report.forall₂_shownTexts marked
  have actualReads : List.Forall₂ (Report.ReadsRow limit Row.actual) marked
      (Text.lines explanation.actual.summary) := by
    rw [actualLines]
    exact Report.forall₂_shownTexts marked
  have diff_eq : explanation.diff = Text.unlines ((marked.zip
      ((Text.lines explanation.expected.summary).zip
        (Text.lines explanation.actual.summary))).flatMap (Report.rowDiff limit)) := by
    have sameLength := expectedReads.length_eq.symm.trans actualReads.length_eq
    rw [diff, pairLines_eq_zip sameLength, expectedLines, actualLines,
      Report.diffLines_accountLines none fun pair member => aligned _ (inRows pair member)]
  refine ⟨expectedReads, actualReads, diff_eq, ?_⟩
  rw [diff_eq, expectedLines, actualLines]
  apply Report.lines_rowDiff
  · rintro line (member | member)
    · exact Report.isSolid_of_mem_accountLines member
    · exact Report.isSolid_of_mem_accountLines member
  · rintro line (member | member)
    · exact Report.feed_not_mem_of_mem_accountLines flatExpected member
    · exact Report.feed_not_mem_of_mem_accountLines flatActual member

end Explanation

namespace Tree

/-- If no name of a part, no kind of a failure and no key of a record in a trace holds a line feed,
and the columns fit, either summary of its explanation has exactly one line for every row that
merging and hiding leave, in their order, and the line shows the row.  The difference of the
summaries goes through these rows in order: it has one line for a row whose outputs, with their
markers and without white space at their ends, look the same in both accounts, and a pair of lines
for any other.  Everything that it has is a line of it.  If the columns do not fit, there is no
explanation. -/
theorem evaluate_diff {settings : Settings} {tree : Tree} {input : Value} {evaluation : Evaluation}
    (evaluated : tree.evaluate settings input = .ok evaluation)
    (feedless : ∀ row ∈ evaluation.trace, Text.Feedless row.bareTexts)
    (shown : Settings) (message : String) :
    let rows := Explanation.shownRows shown evaluation.trace
    let marked := Report.pairMarkers rows (Explanation.numberFrom 0 rows)
    Report.Delivers (Explanation.Fits shown evaluation.trace)
      (Explanation.compose shown message evaluation.trace) fun explanation =>
        let expected := Text.lines explanation.expected.summary
        let actual := Text.lines explanation.actual.summary
        let printed := (marked.zip (expected.zip actual)).flatMap (Report.rowDiff shown.cellWidth)
        expected.length = rows.length ∧ actual.length = rows.length ∧
          List.Forall₂ (Report.ReadsRow shown.cellWidth Row.expected) marked expected ∧
          List.Forall₂ (Report.ReadsRow shown.cellWidth Row.actual) marked actual ∧
          explanation.diff = Text.unlines printed ∧ Text.lines explanation.diff = printed := by
  intro rows marked
  apply Explanation.delivers_compose
  intro expected actual printed
  obtain ⟨account, evaluates, rfl⟩ := evaluate_ok evaluated
  have inTrace : ∀ row ∈ rows, row ∈ mergeStages (account.evaluation settings).trace :=
    fun row member => List.mem_of_mem_filter member
  have aligned : ∀ row ∈ rows, row.actual.input = row.expected.input :=
    fun row member => (isShowable_of_mem_mergeStages
      (fun row listed => evaluates.isShowable listed) (inTrace row member)).aligned
  have flat : ∀ row ∈ rows, Text.Feedless row.bareTexts :=
    fun row member => feedless_of_mem_mergeStages feedless (inTrace row member)
  have goes : (Explanation.composed shown message
      (account.evaluation settings).trace).GoesRowByRow shown.cellWidth marked expected actual :=
    Explanation.goesRowByRow rfl rfl aligned flat
  exact ⟨Explanation.length_of_forall₂ goes.expectedReads,
    Explanation.length_of_forall₂ goes.actualReads, goes.expectedReads, goes.actualReads,
    goes.diff_eq, goes.lines_diff⟩

/-- A line feed in a text of the input is shown in quotes, so each of three rows has one line, and
the only row with other outputs has a pair of lines in the difference. -/
theorem evaluate_diff_quoted :
    let tree := anyOf [.leaf .isNull, .leaf .isNotNull]
    let input := Value.text "a\nb"
    ∃ evaluation explanation, tree.evaluate {} input = .ok evaluation ∧
      (∀ row ∈ evaluation.trace, Text.Feedless row.bareTexts) ∧
      Explanation.Fits {} evaluation.trace ∧
      Explanation.compose {} "note" evaluation.trace = .ok explanation ∧
      (Text.lines explanation.expected.summary).length = 3 ∧
      Text.lines explanation.diff =
        ["          \"a\\nb\"->anyOf      ->true",
          "Mismatch<:      ->  isNull   ->true",
          "Mismatch>:      ->  isNull   ->false",
          "                ->  isNotNull->true"] := by
  intro tree input
  have run : ∃ evaluation, tree.evaluate {} input = .ok evaluation ∧
      (∀ row ∈ evaluation.trace, Text.Feedless row.bareTexts) ∧
      Explanation.Fits {} evaluation.trace ∧
      (Explanation.shownRows {} evaluation.trace).length = 3 :=
    ⟨_, rfl, by decide, by decide, rfl⟩
  obtain ⟨evaluation, evaluated, feedless, fits, rows⟩ := run
  obtain ⟨explanation, composed, expectedLength, -, -, -, -, linesDiff⟩ :=
    (evaluate_diff evaluated feedless {} "note").returns fits
  have same : explanation = Explanation.composed {} "note" evaluation.trace :=
    Except.ok.inj (composed.symm.trans (Explanation.compose_of_fits fits))
  subst same
  refine ⟨evaluation, _, evaluated, feedless, fits, composed, expectedLength.trans rows, ?_⟩
  cases evaluated
  exact linesDiff.trans (by decide +kernel)

/-- A check that passes leaves no line of either summary if its name is too long, though there is no
line feed in it. -/
theorem evaluate_diff_panics :
    let tree := leaf (.ofTable (Text.nameOf 65536) [] (.ok true))
    ∃ evaluation, tree.evaluate {} .null = .ok evaluation ∧
      (∀ row ∈ evaluation.trace, Text.Feedless row.bareTexts) ∧
      Explanation.compose {} "value was not valid" evaluation.trace = .error .widthOutOfRange := by
  intro tree
  have named (length : Nat) : '\n' ∉ (Text.nameOf length).toList := by
    simp [Text.nameOf]
  refine ⟨_, rfl, ?_, ?_⟩
  · intro row member
    rw [List.mem_singleton.mp member]
    exact Text.feedless_cons.mpr ⟨named _, by decide⟩
  · exact Explanation.compose_of_long (List.mem_singleton_self _)
      Text.widthLimit_lt_length_nameOf

end Tree

end Rationale
