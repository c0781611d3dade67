/-
Module: Rationale.Proofs.Recovery
Purpose: The lines of both summaries can be read back from their difference.
Main exports: Text.segments, Text.segments_unlines, Explanation.Finding, Explanation.readFindings?,
  Explanation.readFindings?_diffLines, Explanation.diff_recovers
-/
import Mathlib.Data.List.Basic
import Rationale.Proofs.Lines
import Rationale.Report.Explanation

namespace Rationale

/-!
### Segments

A difference holds lines behind signs, joined by line feeds.  A line never holds a line feed, but it
may end in a carriage return, which belongs to it.  So the difference is divided at line feeds
alone, and not into lines.
-/

namespace Text

/-- The parts of a text between line feeds; an empty text has none. -/
def segments (text : String) : List String :=
  if text.isEmpty then [] else (text.toList.splitOn '\n').map .ofList

theorem feed_not_mem_of_mem_consLine {c : Char} {lines : List (List Char)} (noFeed : c ≠ '\n')
    (feedless : ∀ line ∈ lines, '\n' ∉ line) : ∀ line ∈ consLine c lines, '\n' ∉ line := by
  cases lines with
  | nil => simpa [consLine] using noFeed.symm
  | cons first rest =>
      obtain ⟨here, later⟩ := List.forall_mem_cons.mp feedless
      refine List.forall_mem_cons.mpr ⟨?_, later⟩
      simpa [here] using noFeed.symm

theorem feed_not_mem_of_mem_linesOf (text : List Char) : ∀ line ∈ linesOf text, '\n' ∉ line := by
  fun_induction linesOf text with
  | case1 => simp
  | case2 rest ih => exact List.forall_mem_cons.mpr ⟨List.not_mem_nil, ih⟩
  | case3 rest ih => exact List.forall_mem_cons.mpr ⟨List.not_mem_nil, ih⟩
  | case4 c rest noFeed _ ih => exact feed_not_mem_of_mem_consLine noFeed ih

/-- No line of a text holds a line feed. -/
theorem feed_not_mem_of_mem_lines {text line : String} (member : line ∈ lines text) :
    '\n' ∉ line.toList := by
  obtain ⟨chars, isLine, rfl⟩ := List.mem_map.mp member
  rw [String.toList_ofList]
  exact feed_not_mem_of_mem_linesOf text.toList chars isLine

section Joined

variable {texts : List String}

/-- Texts that are not empty have an empty join only if there are none. -/
theorem unlines_eq_empty_iff (occupied : ∀ text ∈ texts, text ≠ "") :
    unlines texts = "" ↔ texts = [] := by
  constructor
  · intro empty
    cases texts with
    | nil => rfl
    | cons text rest =>
        have chars : ['\n'].intercalate ((text :: rest).map String.toList) = [] := by
          simpa [unlines, String.toList_intercalate] using congrArg String.toList empty
        obtain ⟨first, others, shape⟩ : ∃ first others, text.toList = first :: others :=
          List.exists_cons_of_ne_nil (by simpa using occupied text List.mem_cons_self)
        cases rest <;> simp [shape, List.intercalate_cons_cons] at chars
  · rintro rfl
    rfl

/-- Texts that are not empty and hold no line feed are the segments of their join. -/
theorem segments_unlines (occupied : ∀ text ∈ texts, text ≠ "")
    (feedless : ∀ text ∈ texts, '\n' ∉ text.toList) : segments (unlines texts) = texts := by
  rw [segments]
  by_cases none : texts = []
  · subst none
    rfl
  · have nonempty : (unlines texts).isEmpty = false := by
      rw [String.isEmpty_eq_false_iff]
      exact fun empty => none ((unlines_eq_empty_iff occupied).mp empty)
    have chars : (unlines texts).toList = ['\n'].intercalate (texts.map String.toList) := by
      rw [unlines, String.toList_intercalate]
      rfl
    have apart : ∀ chars ∈ texts.map String.toList, '\n' ∉ chars :=
      List.forall_mem_map.mpr feedless
    rw [nonempty, if_neg Bool.false_ne_true, chars,
      List.splitOn_intercalate '\n' apart (by simpa using none), List.map_map]
    simp

end Joined

end Text

namespace Explanation

/-!
### Reading

The sign of a line tells what it is.  Whatever stands behind the sign, also if it looks like a sign,
belongs to the line.
-/

/-- What a difference tells of one position. -/
inductive Finding where
  /-- Both accounts have the line. -/
  | common (line : String)
  /-- Each account has a line of its own. -/
  | pair (expected actual : String)
deriving Repr, DecidableEq

namespace Finding

/-- The line of the expected account. -/
def expected : Finding → String
  | .common line => line
  | .pair expected _ => expected

/-- The line of the actual account. -/
def actual : Finding → String
  | .common line => line
  | .pair _ actual => actual

/-- Whether each account has a line of its own. -/
def isPair : Finding → Bool
  | .common _ => false
  | .pair _ _ => true

/-- What is told of two lines at one position. -/
def ofLines (pair : String × String) : Finding :=
  if pair.1 = pair.2 then .common pair.1 else .pair pair.1 pair.2

end Finding

/-- What stands behind a sign, if the text begins with it. -/
def behind? (sign text : String) : Option String :=
  (text.toList.dropPrefix? sign.toList).map .ofList

/-- Reads the segments of a difference; `opened` is an expected line for which the actual one is
still to come.  That one must come next, and a segment without a sign cannot be read. -/
def readFindings? : (opened : Option String) → List String → Option (List Finding)
  | none, [] => some []
  | some _, [] => none
  | none, segment :: rest =>
    match behind? commonSign segment with
    | some line => (readFindings? none rest).map (.common line :: ·)
    | none => (behind? expectedSign segment).bind fun expected => readFindings? (some expected) rest
  | some expected, segment :: rest =>
    (behind? actualSign segment).bind fun actual =>
      (readFindings? none rest).map (.pair expected actual :: ·)

/-- Reads a difference. -/
def readDiff? (diff : String) : Option (List Finding) :=
  readFindings? none (Text.segments diff)

theorem behind?_append (sign text : String) : behind? sign (sign ++ text) = some text := by
  have dropped : (sign ++ text).toList.dropPrefix? sign.toList = some text.toList :=
    List.dropPrefix?_eq_some_iff.mpr ⟨sign.toList, by simp, by simp⟩
  rw [behind?, dropped, Option.map_some, String.ofList_toList]

/-- A text behind the sign of an expected line is no line of both accounts. -/
theorem behind?_commonSign_append (text : String) :
    behind? commonSign (expectedSign ++ text) = none := by
  -- The signs differ in their first character already, so the text does not matter.
  rw [behind?, String.toList_append]
  rfl

/-- Reading goes on behind what the difference has for two lines. -/
theorem readFindings?_diffLines_append (pair : String × String) (rest : List String) :
    readFindings? none (diffLines pair ++ rest) =
      (readFindings? none rest).map (.ofLines pair :: ·) := by
  obtain ⟨expected, actual⟩ := pair
  rw [diffLines, Finding.ofLines]
  by_cases same : expected = actual
  · rw [if_pos same, if_pos same, List.singleton_append]
    simp only [readFindings?, behind?_append]
  · rw [if_neg same, if_neg same, List.cons_append, List.singleton_append]
    simp only [readFindings?, behind?_commonSign_append, behind?_append, Option.bind_some]

theorem readFindings?_diffLines (pairs : List (String × String)) :
    readFindings? none (pairs.flatMap diffLines) = some (pairs.map .ofLines) := by
  induction pairs with
  | nil => rfl
  | cons pair rest ih =>
      rw [List.flatMap_cons, readFindings?_diffLines_append, ih, Option.map_some, List.map_cons]

/-!
### Writing

What is read off the difference is compared with the pairs of lines that it was written from.  The
shorter list of lines is filled up with empty ones, so both give as many lines as the longer one
has.
-/

section Lines

variable (pairs : List (String × String))

theorem map_expected_ofLines : (pairs.map .ofLines).map Finding.expected = pairs.map Prod.fst := by
  refine List.map_map.trans (List.map_congr_left fun pair _ => ?_)
  rw [Function.comp, Finding.ofLines]
  split <;> rfl

theorem map_actual_ofLines : (pairs.map .ofLines).map Finding.actual = pairs.map Prod.snd := by
  refine List.map_map.trans (List.map_congr_left fun pair _ => ?_)
  rw [Function.comp, Finding.ofLines]
  split
  case isTrue same => exact same
  case isFalse => rfl

theorem map_isPair_ofLines :
    (pairs.map .ofLines).map Finding.isPair = pairs.map fun pair => pair.1 != pair.2 := by
  refine List.map_map.trans (List.map_congr_left fun pair _ => ?_)
  rw [Function.comp, Finding.ofLines]
  split
  case isTrue same => simp [Finding.isPair, same]
  case isFalse different => simp [Finding.isPair, different]

end Lines

theorem pairLines_eq_zip_rightpad (expected actual : List String) :
    let count := max expected.length actual.length
    pairLines expected actual = (expected.rightpad count "").zip (actual.rightpad count "") := by
  fun_induction pairLines expected actual with
  | case1 => rfl
  | case2 line rest ih => simpa [List.rightpad, List.replicate_succ] using ih
  | case3 line rest ih => simpa [List.rightpad, List.replicate_succ] using ih
  | case4 line rest other others ih => simpa [List.rightpad, Nat.succ_max_succ] using ih

/-- What the difference has for two lines are these lines behind signs. -/
theorem exists_of_mem_diffLines {pair : String × String} {text : String}
    (member : text ∈ diffLines pair) :
    ∃ sign line, sign ≠ "" ∧ '\n' ∉ sign.toList ∧ (line = pair.1 ∨ line = pair.2) ∧
      text = sign ++ line := by
  rw [diffLines] at member
  split at member
  · obtain rfl := List.mem_singleton.mp member
    exact ⟨commonSign, _, by decide, by decide, Or.inl rfl, rfl⟩
  · rcases List.mem_pair.mp member with rfl | rfl
    · exact ⟨expectedSign, _, by decide, by decide, Or.inl rfl, rfl⟩
    · exact ⟨actualSign, _, by decide, by decide, Or.inr rfl, rfl⟩

section Printed

variable {pairs : List (String × String)}

theorem ne_empty_of_mem_printed : ∀ text ∈ pairs.flatMap diffLines, text ≠ "" := by
  intro text member
  obtain ⟨pair, -, inside⟩ := List.mem_flatMap.mp member
  obtain ⟨sign, line, occupied, -, -, rfl⟩ := exists_of_mem_diffLines inside
  simp [occupied]

theorem feed_not_mem_of_mem_printed
    (feedless : ∀ pair ∈ pairs, '\n' ∉ pair.1.toList ∧ '\n' ∉ pair.2.toList) :
    ∀ text ∈ pairs.flatMap diffLines, '\n' ∉ text.toList := by
  intro text member
  obtain ⟨pair, listed, inside⟩ := List.mem_flatMap.mp member
  obtain ⟨expected, actual⟩ := feedless pair listed
  obtain ⟨sign, line, -, flat, isLine, rfl⟩ := exists_of_mem_diffLines inside
  rcases isLine with rfl | rfl
  · simp [flat, expected]
  · simp [flat, actual]

theorem flatMap_diffLines_eq_nil_iff : pairs.flatMap diffLines = [] ↔ pairs = [] := by
  have occupied (pair : String × String) : diffLines pair ≠ [] := by
    rw [diffLines]
    split <;> exact List.cons_ne_nil _ _
  cases pairs with
  | nil => simp
  | cons pair rest => simp [occupied]

end Printed

/-- No filled up line holds a line feed. -/
theorem feed_not_mem_of_mem_rightpad {summary line : String} {count : Nat}
    (member : line ∈ (Text.lines summary).rightpad count "") : '\n' ∉ line.toList := by
  rcases List.mem_append.mp member with isLine | isFilling
  · exact Text.feed_not_mem_of_mem_lines isLine
  · rw [List.eq_of_mem_replicate isFilling]
    decide

/-- Whatever the summaries are, reading their difference gives back the lines of both, with the
shorter list filled up with empty lines.  A pair is found where the two lines differ and only there,
and the difference is empty if and only if no summary has a line. -/
theorem diff_recovers (explanation : Explanation) :
    let expected := Text.lines explanation.expected.summary
    let actual := Text.lines explanation.actual.summary
    let count := max expected.length actual.length
    (∃ findings, readDiff? explanation.diff = some findings ∧
      findings.map Finding.expected = expected.rightpad count "" ∧
      findings.map Finding.actual = actual.rightpad count "" ∧
      findings.map Finding.isPair =
        List.zipWith (· != ·) (expected.rightpad count "") (actual.rightpad count "")) ∧
    (explanation.diff = "" ↔ expected = [] ∧ actual = []) := by
  intro expected actual count
  have written : explanation.diff =
      Text.unlines ((pairLines expected actual).flatMap diffLines) := rfl
  have paired := pairLines_eq_zip_rightpad expected actual
  have filled : (expected.rightpad count "").length = (actual.rightpad count "").length := by
    rw [List.length_rightpad, List.length_rightpad, Nat.max_eq_left (Nat.le_max_left _ _),
      Nat.max_eq_left (Nat.le_max_right _ _)]
  have feedless : ∀ pair ∈ pairLines expected actual,
      '\n' ∉ pair.1.toList ∧ '\n' ∉ pair.2.toList := by
    intro pair member
    rw [paired] at member
    obtain ⟨isExpected, isActual⟩ := List.of_mem_zip member
    exact ⟨feed_not_mem_of_mem_rightpad isExpected, feed_not_mem_of_mem_rightpad isActual⟩
  constructor
  · refine ⟨(pairLines expected actual).map .ofLines, ?_, ?_, ?_, ?_⟩
    · rw [readDiff?, written, Text.segments_unlines ne_empty_of_mem_printed
        (feed_not_mem_of_mem_printed feedless), readFindings?_diffLines]
    · rw [map_expected_ofLines, paired, List.map_fst_zip (Nat.le_of_eq filled)]
    · rw [map_actual_ofLines, paired, List.map_snd_zip (Nat.le_of_eq filled.symm)]
    · rw [map_isPair_ofLines, paired, List.map_zip_eq_zipWith]
      rfl
  · rw [written, Text.unlines_eq_empty_iff ne_empty_of_mem_printed, flatMap_diffLines_eq_nil_iff]
    cases expected <;> cases actual <;> simp [pairLines]

-- Lines that look like signs themselves are read for what they are.
example :
    readDiff? "                    a\nMismatch<:Mismatch>:b\r\nMismatch>:" =
      some [.common "          a", .pair "Mismatch>:b\r" ""] := by
  decide +kernel

end Explanation

end Rationale
