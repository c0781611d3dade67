/-
Module: Rationale.Proofs.Alignment
Purpose: The arrows of all lines of a report stand in the same columns, and the input of every row
  can be read back from the lines, also where it is left blank.
Main exports: Value.isSolid_display, Report.IsAligned, Report.readInputs, Report.IsLaidOut,
  Report.layOut_aligned
-/
import Mathlib.Data.List.DropRight
import Mathlib.Data.List.Forall2
import Rationale.Proofs.Columns
import Rationale.Proofs.Notation

namespace Rationale

/-!
### Texts of inputs

An input never looks like a blank, nor like a shorter input that was filled up with spaces: its text
ends in a character that is no white space, also where it is cut.
-/

namespace Text

theorem isBlank_of_isDigit {c : Char} (isDigit : c.isDigit = true) : isBlank c = false := by
  have bounds := Char.isDigit_iff_toNat.mp isDigit
  simp only [Char.reduceToNat] at bounds
  apply Bool.eq_false_iff.mpr
  intro blank
  obtain ⟨run, isRun, above, below⟩ := Ranges.has_iff.mp blank
  simp only [blanks, List.mem_cons, List.not_mem_nil, or_false] at isRun
  rcases isRun with rfl | rfl | rfl | rfl | rfl | rfl | rfl | rfl | rfl | rfl <;>
    simp only at above below <;> omega

theorem isSolid_of_digits {digits : List Char} (occupied : digits ≠ [])
    (areDigits : ∀ c ∈ digits, c.isDigit = true) : IsSolid digits := by
  have isLast := List.dropLast_append_getLast occupied
  have last := isBlank_of_isDigit (areDigits _ (List.getLast_mem occupied))
  exact ⟨_, _, isLast.symm, last⟩

theorem isSolid_toDigits (number : Nat) : IsSolid (Nat.toDigits 10 number) := by
  apply isSolid_of_digits
  · exact Nat.toDigits_ne_nil
  · exact fun c member => Nat.isDigit_of_mem_toDigits (by decide) (by decide) member

theorem isSolid_clip {text : String} (solid : IsSolid text.toList) (limit : Nat) :
    IsSolid (clip limit text).toList := by
  have dots : IsSolid ellipsis.toList := ⟨['.', '.'], '.', rfl, by decide⟩
  rw [clip]
  split
  · exact solid
  · rw [String.toList_append]
    exact dots.append _

end Text

theorem Decimal.isSolid_placePoint (scale : Nat) {digits : List Char}
    (areDigits : ∀ c ∈ digits, c.isDigit = true) : Text.IsSolid (placePoint scale digits) := by
  obtain ⟨whole, fraction, together, occupied, -, placed⟩ := placePoint_eq scale digits
  have all : ∀ c ∈ whole ++ fraction, c.isDigit = true := by
    rw [together]
    exact isDigit_of_mem_replicate areDigits
  rw [placed]
  cases fraction with
  | nil =>
      apply Text.isSolid_of_digits occupied
      exact fun c member => all c (List.mem_append_left [] member)
  | cons first later =>
      have ends : Text.IsSolid (first :: later) := by
        apply Text.isSolid_of_digits (List.cons_ne_nil first later)
        exact fun c member => all c (List.mem_append_right whole member)
      rw [List.isEmpty_cons, if_neg Bool.false_ne_true]
      have pointed := (ends.append ['.']).append whole
      exact pointed

theorem Decimal.isSolid_print (decimal : Decimal) : Text.IsSolid decimal.print.toList := by
  have digits := isSolid_placePoint decimal.scale fun c member =>
    Nat.isDigit_of_mem_toDigits (b := 10) (n := decimal.mantissa) (by decide) (by decide) member
  rw [print, String.toList_ofList, plain]
  exact digits.append _

theorem Int.isSolid_toString (number : Int) : Text.IsSolid (toString number).toList := by
  cases number with
  | ofNat magnitude =>
      change Text.IsSolid magnitude.repr.toList
      rw [Nat.toList_repr]
      exact Text.isSolid_toDigits magnitude
  | negSucc magnitude =>
      change Text.IsSolid ("-" ++ (magnitude + 1).repr).toList
      rw [String.toList_append, Nat.toList_repr]
      exact (Text.isSolid_toDigits (magnitude + 1)).append _

/-- What encloses a value ends in ink. -/
theorem Text.isSolid_enclosed (inside : String) {close : String} (solid : IsSolid close.toList) :
    IsSolid (inside ++ close).toList := by
  rw [String.toList_append]
  exact solid.append _

theorem Value.isSolid_display (value : Value) : Text.IsSolid value.display.toList := by
  have bracket : Text.IsSolid "]".toList := ⟨[], ']', rfl, by decide⟩
  have brace : Text.IsSolid "\x7d".toList := ⟨[], '\x7d', rfl, by decide⟩
  have quote : Text.IsSolid ['"'] := ⟨[], '"', rfl, by decide⟩
  cases value with
  | null => exact ⟨['n', 'u', 'l'], 'l', rfl, by decide⟩
  | bool answer =>
      cases answer with
      | true => exact ⟨['t', 'r', 'u'], 'e', rfl, by decide⟩
      | false => exact ⟨['f', 'a', 'l', 's'], 'e', rfl, by decide⟩
  | int number =>
      rw [display]
      exact Int.isSolid_toString number.toInt
  | decimal number =>
      rw [display]
      exact number.isSolid_print
  | text content =>
      rw [display, Text.quoted, String.toList_ofList]
      exact quote.append _
  | list items =>
      rw [display]
      exact Text.isSolid_enclosed _ bracket
  | record fields =>
      rw [display]
      exact Text.isSolid_enclosed _ brace
  | context slots =>
      rw [display]
      exact Text.isSolid_enclosed _ bracket

/-- An input that was produced or skipped is shown with ink at its end. -/
theorem Cell.isSolid_summarize_ofInput (input : Option Value) (limit : Nat) :
    Text.IsSolid ((ofInput input).summarize limit).toList := by
  cases input with
  | none =>
      have shown : "(not evaluated)".toList = "(not evaluated".toList ++ [')'] := by decide
      exact ⟨_, ')', shown, by decide⟩
  | some value => exact Text.isSolid_clip value.isSolid_display limit

namespace Report

/-!
### Widths
-/

theorem length_le_widthOf {texts : List String} {text : String} (member : text ∈ texts) :
    text.length ≤ widthOf texts :=
  widthOf_le_iff.mp (Nat.le_refl _) text member

theorem length_filled {width : Nat} {text : String} (fits : text.length ≤ width) :
    (Text.filled width text).toList.length = width := by
  rw [Text.filled, String.toList_append, List.length_append, String.toList_ofList,
    List.length_replicate, String.length_toList]
  omega

/-!
### Reading a line

A line is read by positions alone: some characters from a given one on, and the input in front of
the first arrow without the spaces that fill it up.
-/

/-- Some characters of a text from a position on. -/
def charsAt (position count : Nat) (text : String) : String :=
  .ofList ((text.toList.drop position).take count)

/-- What stands in front of a position, without the spaces at its end. -/
def inputBefore (position : Nat) (text : String) : String :=
  .ofList ((text.toList.take position).rdropWhile (· == ' '))

/-- The inputs of lines, each in front of a position; where there is none, that of the line before
counts once more. -/
def readInputs (position : Nat) (previous : String) : List String → List String
  | [] => []
  | text :: rest =>
    let shown := inputBefore position text
    let input := if shown = "" then previous else shown
    input :: readInputs position input rest

/-- The two arrows of a line stand behind columns of the given widths, and all between them is the
name, filled up with spaces. -/
structure IsAligned (inputWidth nameWidth : Nat) (name text : String) : Prop where
  first : charsAt inputWidth 2 text = "->"
  between : charsAt (inputWidth + 2) nameWidth text = Text.filled nameWidth name
  second : charsAt (inputWidth + 2 + nameWidth) 2 text = "->"

/-- What stands between a front of known length and a back is found by its position. -/
theorem charsAt_of_split {text : String} {front middle back : List Char} {position count : Nat}
    (split : text.toList = front ++ (middle ++ back)) (starts : front.length = position)
    (stops : middle.length = count) : charsAt position count text = .ofList middle := by
  rw [charsAt, split, List.drop_left' starts, List.take_left' stops]

section Lines

variable {inputWidth nameWidth : Nat}

theorem Line.toList_shown_columns (inputWidth nameWidth : Nat) (shownInput : String) (line : Line) :
    (line.shown inputWidth nameWidth shownInput).toList =
      (Text.filled inputWidth shownInput).toList ++ ("->".toList ++
        ((Text.filled nameWidth line.name).toList ++
          ("->".toList ++ Text.dropBlankEnd line.output.toList))) := by
  rw [toList_shown, front]
  simp only [String.toList_append, List.append_assoc]

theorem Line.isAligned_shown {shownInput : String} {line : Line}
    (shown : shownInput.length ≤ inputWidth) (named : line.name.length ≤ nameWidth) :
    IsAligned inputWidth nameWidth line.name (line.shown inputWidth nameWidth shownInput) := by
  have columns := line.toList_shown_columns inputWidth nameWidth shownInput
  have inputs := length_filled shown
  have names := length_filled named
  constructor
  · exact charsAt_of_split columns inputs rfl
  · rw [← List.append_assoc] at columns
    have starts : ((Text.filled inputWidth shownInput).toList ++ "->".toList).length =
        inputWidth + 2 := by
      rw [List.length_append, inputs]
      rfl
    rw [charsAt_of_split columns starts names, String.ofList_toList]
  · rw [← List.append_assoc, ← List.append_assoc] at columns
    have starts : ((Text.filled inputWidth shownInput).toList ++ "->".toList ++
        (Text.filled nameWidth line.name).toList).length = inputWidth + 2 + nameWidth := by
      rw [List.length_append, List.length_append, inputs, names]
      rfl
    exact charsAt_of_split columns starts rfl

theorem rdropWhile_filled {width : Nat} {text : String}
    (whole : text = "" ∨ Text.IsSolid text.toList) :
    (Text.filled width text).toList.rdropWhile (· == ' ') = text.toList := by
  have spaces (count : Nat) : (text.toList ++ List.replicate count ' ').rdropWhile (· == ' ') =
      text.toList := by
    induction count with
    | zero =>
        rw [List.replicate_zero, List.append_nil]
        rcases whole with rfl | ⟨before, last, ends, inked⟩
        · rfl
        · have notSpace : ¬ (last == ' ') = true := by
            simpa using Text.ne_of_isBlank inked (by decide)
          rw [ends]
          exact List.rdropWhile_concat_neg (· == ' ') before last notSpace
    | succ count ih =>
        rw [List.replicate_succ', ← List.append_assoc, List.rdropWhile_concat_pos _ _ _ rfl, ih]
  rw [Text.filled, String.toList_append, String.toList_ofList]
  exact spaces _

/-- The input that a line shows, or no input, is read in front of the first arrow. -/
theorem Line.inputBefore_shown (nameWidth : Nat) {shownInput : String} (line : Line)
    (shown : shownInput.length ≤ inputWidth)
    (whole : shownInput = "" ∨ Text.IsSolid shownInput.toList) :
    inputBefore inputWidth (line.shown inputWidth nameWidth shownInput) = shownInput := by
  rw [inputBefore, toList_shown_columns, List.take_left' (length_filled shown),
    rdropWhile_filled whole, String.ofList_toList]

/-- A line whose input and name fit into their columns. -/
structure Line.Fits (inputWidth nameWidth : Nat) (line : Line) : Prop where
  input : line.input.length ≤ inputWidth
  name : line.name.length ≤ nameWidth

theorem length_shownInput_le {previous : Option String} {line : Line}
    (fits : line.Fits inputWidth nameWidth) :
    (if previous = some line.input then "" else line.input).length ≤ inputWidth := by
  split
  · exact Nat.zero_le _
  · exact fits.input

theorem forall₂_isAligned (previous : Option String) {lines : List Line}
    (fit : ∀ line ∈ lines, line.Fits inputWidth nameWidth) :
    List.Forall₂ (fun line text => IsAligned inputWidth nameWidth line.name text) lines
      (shownTexts inputWidth nameWidth previous lines) := by
  induction lines generalizing previous with
  | nil => exact .nil
  | cons line rest ih =>
      have fits := fit line List.mem_cons_self
      apply List.Forall₂.cons
      · exact Line.isAligned_shown (length_shownInput_le fits) fits.name
      · exact ih _ fun other member => fit other (List.mem_cons_of_mem line member)

/-- Lines whose inputs end in ink give them back, the blank ones that of the line before. -/
theorem readInputs_shownTexts (previous : Option String) {lines : List Line}
    (fit : ∀ line ∈ lines, line.Fits inputWidth nameWidth)
    (solid : ∀ line ∈ lines, Text.IsSolid line.input.toList) :
    readInputs inputWidth (previous.getD "") (shownTexts inputWidth nameWidth previous lines) =
      lines.map Line.input := by
  induction lines generalizing previous with
  | nil => rfl
  | cons line rest ih =>
      have fits := fit line List.mem_cons_self
      have inked := solid line List.mem_cons_self
      have later := ih (some line.input)
        (fun other member => fit other (List.mem_cons_of_mem line member))
        (fun other member => solid other (List.mem_cons_of_mem line member))
      rw [Option.getD_some] at later
      rw [shownTexts, readInputs, List.map_cons]
      by_cases repeated : previous = some line.input
      · have blank := line.inputBefore_shown nameWidth (Nat.zero_le inputWidth) (.inl rfl)
        simp only [if_pos repeated, blank, if_true]
        rw [repeated, Option.getD_some, later]
      · have shown := line.inputBefore_shown nameWidth fits.input (.inr inked)
        have occupied : line.input ≠ "" := by
          rintro empty
          obtain ⟨before, last, ends, -⟩ := inked
          rw [empty] at ends
          simp at ends
        simp only [if_neg repeated, shown, if_neg occupied]
        rw [later]

end Lines

/-- The lines of one account of some rows: the arrows stand in the same columns in all of them, and
each name between them, indented as deep as the row lies below the outermost one.  If the inputs are
values or were skipped, they are read back from the lines as they were shown. -/
structure IsLaidOut (limit inputWidth nameWidth : Nat) (rows : Trace) (side : Row → Side)
    (texts : List String) : Prop where
  aligned : List.Forall₂
    (fun row text => IsAligned inputWidth nameWidth
      (indentation (row.level - baseLevel rows) ++ row.form) text) rows texts
  readable : (∀ row ∈ rows, ∃ input, (side row).input = .ofInput input) →
    readInputs inputWidth "" texts = rows.map fun row => (side row).input.summarize limit

section Accounts

variable {limit inputWidth nameWidth : Nat} {rows : Trace} {markers : List (Option Nat)}
  {side : Row → Side}

theorem isLaidOut_shownTexts
    (fit : ∀ line ∈ linesOfAccount limit side rows markers, line.Fits inputWidth nameWidth) :
    IsLaidOut limit inputWidth nameWidth rows side
      (shownTexts inputWidth nameWidth none (linesOfAccount limit side rows markers)) := by
  constructor
  · have aligned := forall₂_isAligned none fit
    rw [linesOfAccount, List.forall₂_map_left_iff] at aligned
    have named : List.Forall₂
        (fun row text => IsAligned inputWidth nameWidth
          (indentation (row.level - baseLevel rows) ++ row.form) text)
        ((pairMarkers rows markers).map Prod.fst)
        (shownTexts inputWidth nameWidth none (linesOfAccount limit side rows markers)) :=
      List.forall₂_map_left_iff.mpr aligned
    rwa [map_fst_pairMarkers] at named
  · intro produced
    have solid : ∀ line ∈ linesOfAccount limit side rows markers,
        Text.IsSolid line.input.toList := by
      intro line member
      have shown := List.mem_map_of_mem (f := Line.input) member
      rw [map_input_linesOfAccount] at shown
      obtain ⟨row, isRow, same⟩ := List.mem_map.mp shown
      obtain ⟨input, given⟩ := produced row isRow
      rw [← same, given]
      exact Cell.isSolid_summarize_ofInput input limit
    rw [← map_input_linesOfAccount]
    exact readInputs_shownTexts none fit solid

end Accounts

/-- Where the columns fit, both accounts of some rows are laid out with the same column widths,
whatever the rows and the markers are; where they do not, there are no lines. -/
theorem layOut_aligned (limit : Nat) (rows : Trace) (markers : List (Option Nat)) :
    Delivers (Fits limit rows) (layOut limit rows markers) fun texts =>
      ∃ inputWidth nameWidth,
        IsLaidOut limit inputWidth nameWidth rows Row.expected texts.1 ∧
          IsLaidOut limit inputWidth nameWidth rows Row.actual texts.2 := by
  let expected := linesOfAccount limit Row.expected rows markers
  let actual := linesOfAccount limit Row.actual rows markers
  have fit : ∀ line ∈ expected ++ actual,
      line.Fits (inputColumn limit rows markers) (nameColumn limit rows markers) := by
    intro line member
    constructor
    · exact length_le_widthOf (List.mem_map_of_mem member)
    · exact length_le_widthOf (List.mem_map_of_mem member)
  apply delivers_layOut
  refine ⟨_, _, isLaidOut_shownTexts ?_, isLaidOut_shownTexts ?_⟩
  · exact fun line member => fit line (List.mem_append_left actual member)
  · exact fun line member => fit line (List.mem_append_right expected member)

/-- An input that comes twice is shown once and read twice, behind one that was skipped. -/
theorem layOut_aligned_of_repeated :
    let row (form : String) (level : Nat) (input : Option Value) : Row :=
      { form, level, kind := .leaf, continued := false
        expected := { input := .ofInput input, output := .value (.bool true) }
        actual := { input := .ofInput input, output := .skipped }
        requiresExplanation := false, mergeable := false, ignored := false }
    let rows := [row "a" 1 none, row "b" 2 (some (.text "x ")), row "c" 2 (some (.text "x "))]
    Fits 80 rows ∧ (∀ row ∈ rows, ∃ input, row.actual.input = .ofInput input) ∧
      ∃ texts inputWidth nameWidth, layOut 80 rows [some 0] = .ok texts ∧
        IsLaidOut 80 inputWidth nameWidth rows Row.actual texts.2 ∧
          readInputs inputWidth "" texts.2 = ["(not evaluated)", "\"x \"", "\"x \""] := by
  intro row rows
  have fits : Fits 80 rows := by decide
  have produced : ∀ row ∈ rows, ∃ input, row.actual.input = .ofInput input := by
    intro other member
    simp only [rows, List.mem_cons, List.not_mem_nil, or_false] at member
    rcases member with rfl | rfl | rfl
    · exact ⟨none, rfl⟩
    · exact ⟨some (.text "x "), rfl⟩
    · exact ⟨some (.text "x "), rfl⟩
  obtain ⟨texts, printed, inputWidth, nameWidth, -, laidOut⟩ :=
    (layOut_aligned 80 rows [some 0]).returns fits
  refine ⟨fits, produced, texts, inputWidth, nameWidth, printed, laidOut, ?_⟩
  rw [laidOut.readable produced]
  decide

/-- A single row with a name that is too long leaves both accounts without lines. -/
theorem layOut_panics :
    let row : Row :=
      { form := Text.nameOf 65536, level := 0, kind := .leaf, continued := false
        expected := { input := .value .null, output := .value (.bool true) }
        actual := { input := .value .null, output := .value (.bool true) }
        requiresExplanation := false, mergeable := false, ignored := false }
    layOut 80 [row] [] = .error .widthOutOfRange := by
  intro row
  apply layOut_of_beyond
  exact not_fits_of_long (List.mem_singleton_self row) Text.widthLimit_lt_length_nameOf

end Report

end Rationale
