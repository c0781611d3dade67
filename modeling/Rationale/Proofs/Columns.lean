/-
Module: Rationale.Proofs.Columns
Purpose: What a report shows of the outputs of its rows, and that outputs which look different give
  lines that the difference of both summaries marks.
Main exports: Report.shownOutput, Report.Piece, Report.pieces, Report.exists_differing_lines,
  Explanation.exists_diff_eq, Explanation.exists_marker, Report.shownOutput_ne, Report.Reads,
  Report.forall₂_accountTexts
-/
import Rationale.Proofs.Lines
import Rationale.Proofs.Widths

namespace Rationale

namespace Report

/-- What a line shows of the output of a row, with the marker behind it. -/
def shownOutput (limit : Nat) (side : Row → Side) (row : Row) (marker : Option Nat) : List Char :=
  Text.dropBlankEnd ((side row).output.summarize limit ++ markerText marker).toList

/-!
### Lines in two parts

What a line shows in front of the output is the same in both accounts of a row with one input, and
it ends in an arrow, so that trimming a line only trims its output.
-/

/-- A row with its marker and with what its line shows in front of the output. -/
structure Piece where
  front : List Char
  row : Row
  marker : Option Nat

/-- The line of one account of the row. -/
def Piece.text (limit : Nat) (side : Row → Side) (piece : Piece) : List Char :=
  piece.front ++ shownOutput limit side piece.row piece.marker

theorem Line.isSolid_front (inputWidth nameWidth : Nat) (shownInput : String) (line : Line) :
    Text.IsSolid (line.front inputWidth nameWidth shownInput).toList := by
  have arrow : Text.IsSolid "->".toList := ⟨['-'], '>', rfl, by decide⟩
  rw [front, String.toList_append]
  exact arrow.append _

theorem Line.toList_shown (inputWidth nameWidth : Nat) (shownInput : String) (line : Line) :
    (line.shown inputWidth nameWidth shownInput).toList =
      (line.front inputWidth nameWidth shownInput).toList ++
        Text.dropBlankEnd line.output.toList := by
  rw [shown, Text.trimEnd, String.toList_ofList, String.toList_append,
    Text.dropBlankEnd_append (isSolid_front inputWidth nameWidth shownInput line)]

section Pieces

variable (limit base inputWidth nameWidth : Nat)

/-- Rows with what their expected lines show in front of the outputs; `previous` is the input of the
line before. -/
def pieces : (previous : Option String) → List (Row × Option Nat) → List Piece
  | _, [] => []
  | previous, (row, marker) :: rest =>
    let line := Line.ofRow limit base Row.expected row marker
    let shownInput := if previous = some line.input then "" else line.input
    { front := (line.front inputWidth nameWidth shownInput).toList, row, marker } ::
      pieces (some line.input) rest

variable {limit base inputWidth nameWidth} {previous : Option String}
  {marked : List (Row × Option Nat)}

theorem map_marked_pieces :
    (pieces limit base inputWidth nameWidth previous marked).map
      (fun piece => (piece.row, piece.marker)) = marked := by
  induction marked generalizing previous with
  | nil => rfl
  | cons pair rest ih => rw [pieces, List.map_cons, ih]

theorem isSolid_front_of_mem {piece : Piece}
    (member : piece ∈ pieces limit base inputWidth nameWidth previous marked) :
    Text.IsSolid piece.front := by
  induction marked generalizing previous with
  | nil => cases member
  | cons pair rest ih =>
      rcases List.mem_cons.mp member with rfl | later
      · exact Line.isSolid_front _ _ _ _
      · exact ih later

theorem isSolid_text_of_mem {piece : Piece} {side : Row → Side}
    (member : piece ∈ pieces limit base inputWidth nameWidth previous marked) :
    Text.IsSolid (piece.text limit side) :=
  Text.isSolid_append_dropBlankEnd (isSolid_front_of_mem member) _

theorem exists_piece {row : Row} {marker : Option Nat} (member : (row, marker) ∈ marked) :
    ∃ piece ∈ pieces limit base inputWidth nameWidth previous marked,
      piece.row = row ∧ piece.marker = marker := by
  rw [← @map_marked_pieces limit base inputWidth nameWidth previous marked] at member
  obtain ⟨piece, isPiece, same⟩ := List.mem_map.mp member
  exact ⟨piece, isPiece, congrArg Prod.fst same, congrArg Prod.snd same⟩

theorem marked_of_mem_pieces {piece : Piece}
    (member : piece ∈ pieces limit base inputWidth nameWidth previous marked) :
    (piece.row, piece.marker) ∈ marked := by
  rw [← @map_marked_pieces limit base inputWidth nameWidth previous marked]
  exact List.mem_map_of_mem member

/-- The lines of an account are the texts of the pieces, if its inputs are those expected. -/
theorem map_toList_shownTexts {side : Row → Side}
    (aligned : ∀ pair ∈ marked, (side pair.1).input = pair.1.expected.input) :
    (shownTexts inputWidth nameWidth previous
        (marked.map fun (row, marker) => Line.ofRow limit base side row marker)).map
        String.toList =
      (pieces limit base inputWidth nameWidth previous marked).map (Piece.text limit side) := by
  induction marked generalizing previous with
  | nil => rfl
  | cons pair rest ih =>
      obtain ⟨row, marker⟩ := pair
      have here : (side row).input = row.expected.input := aligned (row, marker) List.mem_cons_self
      have later := fun previous => @ih previous fun other member =>
        aligned other (List.mem_cons_of_mem _ member)
      have input : (Line.ofRow limit base side row marker).input =
          (Line.ofRow limit base Row.expected row marker).input := by
        rw [Line.ofRow, Line.ofRow, here]
      rw [List.map_cons, shownTexts, List.map_cons, later, Line.toList_shown, input]
      rfl

end Pieces

/-!
### Different outputs

Of a row whose two outputs look different the expected one stands on a single line.  Other rows can
only have more lines in the actual account, so the lines of both accounts agree only if those of
every row do.
-/

/-- The output of the row looks alike in both accounts, or its expected one stands on a single
line. -/
def Piece.IsFlat (limit : Nat) (piece : Piece) : Prop :=
  shownOutput limit Row.expected piece.row piece.marker =
      shownOutput limit Row.actual piece.row piece.marker ∨
    '\n' ∉ shownOutput limit Row.expected piece.row piece.marker

theorem Piece.length_lines_le {limit : Nat} {piece : Piece} (solid : Text.IsSolid piece.front)
    (flat : piece.IsFlat limit) :
    (Text.linesOf (piece.text limit Row.expected)).length ≤
      (Text.linesOf (piece.text limit Row.actual)).length := by
  have whole : ∀ side, Text.IsSolid (piece.text limit side) := fun side =>
    Text.isSolid_append_dropBlankEnd solid _
  rw [Text.length_linesOf (whole _), Text.length_linesOf (whole _), Piece.text, Piece.text,
    List.count_append, List.count_append]
  rcases flat with same | noFeed
  · exact Nat.le_of_eq (by rw [same])
  · rw [List.count_eq_zero_of_not_mem noFeed]
    omega

theorem Piece.linesOf_text_ne {limit : Nat} {piece : Piece} (solid : Text.IsSolid piece.front)
    (flat : piece.IsFlat limit)
    (visible : shownOutput limit Row.expected piece.row piece.marker ≠
      shownOutput limit Row.actual piece.row piece.marker) :
    Text.linesOf (piece.text limit Row.expected) ≠ Text.linesOf (piece.text limit Row.actual) := by
  intro same
  have noFeed := flat.resolve_left visible
  have whole : ∀ side, Text.IsSolid (piece.text limit side) := fun side =>
    Text.isSolid_append_dropBlankEnd solid _
  have counted := congrArg List.length same
  rw [Text.length_linesOf (whole _), Text.length_linesOf (whole _), Piece.text, Piece.text,
    List.count_append, List.count_append, List.count_eq_zero_of_not_mem noFeed] at counted
  have alsoNoFeed : '\n' ∉ shownOutput limit Row.actual piece.row piece.marker :=
    List.count_eq_zero.mp (by omega)
  exact visible (Text.eq_of_linesOf_append solid noFeed alsoNoFeed same)

end Report

namespace Explanation

theorem getLast?_ne_of_cons {line : String} {rest : List String}
    (whole : (line :: rest).getLast? ≠ some "") : rest.getLast? ≠ some "" := by
  intro last
  rw [List.getLast?_cons, last] at whole
  exact whole rfl

/-- Line lists that do not end in an empty line and agree pair by pair are the same. -/
theorem eq_of_pairLines {expected actual : List String}
    (agree : ∀ pair ∈ pairLines expected actual, pair.1 = pair.2)
    (expectedEnd : expected.getLast? ≠ some "") (actualEnd : actual.getLast? ≠ some "") :
    expected = actual := by
  fun_induction pairLines expected actual with
  | case1 => rfl
  | case2 line rest ih =>
      -- Lines that are filled up agree only with empty ones, the last of which is excluded.
      exfalso
      have empty : line = "" := agree (line, "") List.mem_cons_self
      have none : rest = [] :=
        ih (fun pair member => agree pair (List.mem_cons_of_mem _ member))
          (getLast?_ne_of_cons expectedEnd) actualEnd
      rw [none, empty] at expectedEnd
      exact expectedEnd rfl
  | case3 line rest ih =>
      exfalso
      have empty : "" = line := agree ("", line) List.mem_cons_self
      have none : [] = rest :=
        ih (fun pair member => agree pair (List.mem_cons_of_mem _ member)) expectedEnd
          (getLast?_ne_of_cons actualEnd)
      rw [← none, ← empty] at actualEnd
      exact actualEnd rfl
  | case4 line rest other others ih =>
      have here : line = other := agree (line, other) List.mem_cons_self
      have later := ih (fun pair member => agree pair (List.mem_cons_of_mem _ member))
        (getLast?_ne_of_cons expectedEnd) (getLast?_ne_of_cons actualEnd)
      rw [here, later]

theorem pairLines_self (lines : List String) :
    ∀ pair ∈ pairLines lines lines, pair.1 = pair.2 := by
  induction lines with
  | nil => simp [pairLines]
  | cons line rest ih =>
      intro pair member
      rw [pairLines] at member
      rcases List.mem_cons.mp member with rfl | later
      · rfl
      · exact ih pair later

/-- Lines that differ are marked in the difference of both summaries, one after the other. -/
theorem exists_diff_eq {explanation : Explanation} {expected actual : String}
    (paired : (expected, actual) ∈ pairLines (Text.lines explanation.expected.summary)
      (Text.lines explanation.actual.summary))
    (differ : expected ≠ actual) :
    ∃ before after, explanation.diff = Text.unlines
      (before ++ (expectedSign ++ expected) :: (actualSign ++ actual) :: after) := by
  obtain ⟨before, after, split⟩ := List.append_of_mem paired
  refine ⟨before.flatMap diffLines, after.flatMap diffLines, ?_⟩
  simp only [diff, split, List.flatMap_append, List.flatMap_cons]
  rw [diffLines, if_neg differ]
  rfl

end Explanation

namespace Report

theorem mem_of_mem_pairMarkers {rows : Trace} {markers : List (Option Nat)}
    {pair : Row × Option Nat} (paired : pair ∈ pairMarkers rows markers) : pair.1 ∈ rows := by
  rw [← map_fst_pairMarkers rows markers]
  exact List.mem_map_of_mem paired

theorem exists_pieces_accountTexts (limit : Nat) {rows : Trace} (markers : List (Option Nat))
    (aligned : ∀ row ∈ rows, row.actual.input = row.expected.input) :
    ∃ base inputWidth nameWidth,
      (accountTexts limit rows markers Row.expected).map String.toList =
          (pieces limit base inputWidth nameWidth none (pairMarkers rows markers)).map
            (Piece.text limit Row.expected) ∧
        (accountTexts limit rows markers Row.actual).map String.toList =
          (pieces limit base inputWidth nameWidth none (pairMarkers rows markers)).map
            (Piece.text limit Row.actual) := by
  refine ⟨_, _, _, map_toList_shownTexts fun _ _ => rfl, map_toList_shownTexts ?_⟩
  exact fun pair member => aligned pair.1 (mem_of_mem_pairMarkers member)

section Lines

variable {limit base inputWidth nameWidth : Nat} {previous : Option String}
  {marked : List (Row × Option Nat)} {side : Row → Side} {texts : List String}

theorem lines_of_pieces
    (given : texts.map String.toList =
      (pieces limit base inputWidth nameWidth previous marked).map (Piece.text limit side)) :
    Text.lines (Text.unlines texts) =
      ((pieces limit base inputWidth nameWidth previous marked).flatMap fun piece =>
        Text.linesOf (piece.text limit side)).map String.ofList := by
  rw [Text.lines_unlines, given, List.flatMap_map]
  intro text member
  have listed := List.mem_map_of_mem (f := String.toList) member
  rw [given] at listed
  obtain ⟨piece, isPiece, same⟩ := List.mem_map.mp listed
  rw [← same]
  exact isSolid_text_of_mem isPiece

theorem getLast?_lines_of_pieces
    (given : texts.map String.toList =
      (pieces limit base inputWidth nameWidth previous marked).map (Piece.text limit side)) :
    (Text.lines (Text.unlines texts)).getLast? ≠ some "" := by
  rw [lines_of_pieces given, List.getLast?_map]
  intro last
  obtain ⟨line, isLast, empty⟩ := Option.map_eq_some_iff.mp last
  have noChars : line = [] := by simpa using congrArg String.toList empty
  rw [noChars, ← List.flatMap_map] at isLast
  refine Text.getLast?_flatMap_linesOf ?_ isLast
  intro text member
  obtain ⟨piece, isPiece, rfl⟩ := List.mem_map.mp member
  exact isSolid_text_of_mem isPiece

end Lines

/-- If the outputs of some row look different, some lines of the two accounts differ that stand at
the same position. -/
theorem exists_differing_lines {limit : Nat} {rows : Trace} {markers : List (Option Nat)}
    (aligned : ∀ row ∈ rows, row.actual.input = row.expected.input)
    (flat : ∀ row marker, (row, marker) ∈ pairMarkers rows markers →
      shownOutput limit Row.expected row marker = shownOutput limit Row.actual row marker ∨
        '\n' ∉ shownOutput limit Row.expected row marker)
    {row : Row} {marker : Option Nat} (paired : (row, marker) ∈ pairMarkers rows markers)
    (visible : shownOutput limit Row.expected row marker ≠
      shownOutput limit Row.actual row marker) :
    ∃ expected actual, (expected, actual) ∈ Explanation.pairLines
        (Text.lines (Text.unlines (accountTexts limit rows markers Row.expected)))
        (Text.lines (Text.unlines (accountTexts limit rows markers Row.actual))) ∧
      expected ≠ actual := by
  obtain ⟨base, inputWidth, nameWidth, expectedTexts, actualTexts⟩ :=
    exists_pieces_accountTexts limit markers aligned
  obtain ⟨piece, isPiece, rfl, rfl⟩ : ∃ piece ∈ pieces limit base inputWidth nameWidth none
      (pairMarkers rows markers), piece.row = row ∧ piece.marker = marker := exists_piece paired
  by_contra agree
  have same : Text.lines (Text.unlines (accountTexts limit rows markers Row.expected)) =
      Text.lines (Text.unlines (accountTexts limit rows markers Row.actual)) := by
    apply Explanation.eq_of_pairLines
    · intro pair member
      by_contra differ
      exact agree ⟨pair.1, pair.2, member, differ⟩
    · exact getLast?_lines_of_pieces expectedTexts
    · exact getLast?_lines_of_pieces actualTexts
  rw [lines_of_pieces expectedTexts, lines_of_pieces actualTexts] at same
  have chars := List.map_injective_iff.mpr (fun _ _ => String.ofList_injective) same
  have flatPiece : ∀ piece ∈ pieces limit base inputWidth nameWidth none
      (pairMarkers rows markers), piece.IsFlat limit := fun piece member =>
    flat piece.row piece.marker (marked_of_mem_pieces member)
  have shorter := fun piece member =>
    Piece.length_lines_le (isSolid_front_of_mem member) (flatPiece piece member)
  exact Piece.linesOf_text_ne (isSolid_front_of_mem isPiece) (flatPiece piece isPiece) visible
    (Text.eq_of_flatMap_eq shorter chars piece isPiece)

end Report

/-!
### Markers

A row that has to be explained has a number behind its output.  Nothing is trimmed in front of the
number, so outputs that differ look different there, and elsewhere they look different if they
differ without the white space at their ends.
-/

/-- Every row has its marker, and it is a number if the row has to be explained. -/
theorem Explanation.exists_marker {rows : Trace} {row : Row} (member : row ∈ rows) (next : Nat) :
    ∃ marker, (row, marker) ∈ Report.pairMarkers rows (numberFrom next rows) ∧
      marker.isSome = row.requiresExplanation := by
  induction rows generalizing next with
  | nil => cases member
  | cons first rest ih =>
      rw [numberFrom]
      rcases List.mem_cons.mp member with rfl | later
      · cases explained : row.requiresExplanation with
        | true =>
            rw [if_pos rfl]
            exact ⟨some next, List.mem_cons_self, rfl⟩
        | false =>
            rw [if_neg Bool.false_ne_true]
            exact ⟨none, List.mem_cons_self, rfl⟩
      · split
        · obtain ⟨marker, paired, same⟩ := ih later (next + 1)
          exact ⟨marker, List.mem_cons_of_mem _ paired, same⟩
        · obtain ⟨marker, paired, same⟩ := ih later next
          exact ⟨marker, List.mem_cons_of_mem _ paired, same⟩

namespace Report

theorem feed_not_mem_markerText (marker : Option Nat) : '\n' ∉ (markerText marker).toList := by
  cases marker with
  | none => simp [markerText]
  | some index =>
      have digits : '\n' ∉ (toString index).toList := by
        rw [Nat.toString_eq_repr, Nat.toList_repr]
        exact Text.feed_not_mem_toDigits (by decide) index
      rw [markerText, String.toList_append, String.toList_append, List.mem_append, List.mem_append]
      rintro ((front | inside) | back)
      · exact absurd front (by decide)
      · exact digits inside
      · exact absurd back (by decide)

section Outputs

variable {limit : Nat} {side : Row → Side} {row : Row}

theorem shownOutput_some (index : Nat) :
    shownOutput limit side row (some index) =
      ((side row).output.summarize limit).toList ++ (markerText (some index)).toList := by
  have bracket : Text.IsSolid "]".toList := ⟨[], ']', rfl, by decide⟩
  have marked : Text.IsSolid (markerText (some index)).toList := by
    rw [markerText, String.toList_append]
    exact bracket.append _
  rw [shownOutput, String.toList_append, Text.dropBlankEnd_of_isSolid (marked.append _)]

theorem shownOutput_none :
    shownOutput limit side row none =
      (Text.trimEnd ((side row).output.summarize limit)).toList := by
  rw [shownOutput, Text.trimEnd, String.toList_ofList, markerText, String.append_empty]

/-- Outputs that differ look different behind the same number. -/
theorem shownOutput_ne_of_isSome {marker : Option Nat} (numbered : marker.isSome = true)
    (differ : row.expected.output.summarize limit ≠ row.actual.output.summarize limit) :
    shownOutput limit Row.expected row marker ≠ shownOutput limit Row.actual row marker := by
  obtain ⟨index, rfl⟩ := Option.isSome_iff_exists.mp numbered
  rw [shownOutput_some, shownOutput_some]
  intro same
  exact differ (String.toList_inj.mp (List.append_cancel_right same))

/-- Outputs that differ without the white space at their ends look different everywhere. -/
theorem shownOutput_ne (marker : Option Nat)
    (differ : Text.trimEnd (row.expected.output.summarize limit) ≠
      Text.trimEnd (row.actual.output.summarize limit)) :
    shownOutput limit Row.expected row marker ≠ shownOutput limit Row.actual row marker := by
  cases marker with
  | none =>
      rw [shownOutput_none, shownOutput_none]
      exact fun same => differ (String.toList_inj.mp same)
  | some index =>
      apply shownOutput_ne_of_isSome rfl
      intro same
      exact differ (congrArg Text.trimEnd same)

/-- An output on a single line stays on it. -/
theorem feed_not_mem_shownOutput {marker : Option Nat}
    (noFeed : '\n' ∉ ((side row).output.summarize limit).toList) :
    '\n' ∉ shownOutput limit side row marker := by
  intro member
  have inside := List.dropWhile_subset _ (List.mem_reverse.mp member)
  rw [List.mem_reverse, String.toList_append, List.mem_append] at inside
  rcases inside with output | marked
  · exact noFeed output
  · exact feed_not_mem_markerText marker marked

end Outputs

/-!
### What a line reads

Whatever the inputs of the rows are, the line of a row shows its name between two arrows, with
nothing but spaces beside it, and the output behind the second arrow.
-/

/-- The line shows the name and the output behind some input. -/
def Reads (name output line : String) : Prop :=
  ∃ (input : String) (levels pad : Nat),
    line = input ++ "->" ++ (indentation levels ++ name ++ .ofList (.replicate pad ' ')) ++ "->" ++
      output

theorem reads_shown (limit base inputWidth nameWidth : Nat) (side : Row → Side) (row : Row)
    (marker : Option Nat) (shownInput : String) :
    Reads row.form (.ofList (shownOutput limit side row marker))
      ((Line.ofRow limit base side row marker).shown inputWidth nameWidth shownInput) := by
  let line := Line.ofRow limit base side row marker
  refine ⟨Text.filled inputWidth shownInput, row.level - base, nameWidth - line.name.length, ?_⟩
  have front : line.front inputWidth nameWidth shownInput =
      Text.filled inputWidth shownInput ++ "->" ++
        (indentation (row.level - base) ++ row.form ++
          .ofList (.replicate (nameWidth - line.name.length) ' ')) ++ "->" := rfl
  apply String.toList_inj.mp
  rw [Line.toList_shown, ← front, String.toList_append, String.toList_ofList]
  rfl

theorem forall₂_shownTexts {limit base inputWidth nameWidth : Nat} {previous : Option String}
    {side : Row → Side} (marked : List (Row × Option Nat)) :
    List.Forall₂
      (fun pair line => Reads pair.1.form (.ofList (shownOutput limit side pair.1 pair.2)) line)
      marked
      (shownTexts inputWidth nameWidth previous
        (marked.map fun (row, marker) => Line.ofRow limit base side row marker)) := by
  induction marked generalizing previous with
  | nil => exact .nil
  | cons pair rest ih => exact .cons (reads_shown _ _ _ _ _ _ _ _) ih

end Report

end Rationale
