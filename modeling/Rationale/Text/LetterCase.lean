/-
Module: Rationale.Text.LetterCase
Purpose: Upper and lower case of whole texts, by the full mappings.
Main exports: Text.upper, Text.lower
-/
import Rationale.Text.CaseTable

namespace Rationale.Text

/-!
A letter may map to several letters, so a text and its other case need not have the same length.
One mapping depends on the neighbours: a capital sigma is lowered to the final form at the end of
a word, that is, when a cased letter stands before it and none after it, where characters that
have no say in casing are passed over on both sides.
-/

/-- The code point that a table of runs gives for another one. -/
def CaseRun.shift? (code : Nat) (run : CaseRun) : Option Nat :=
  if run.first ≤ code ∧ code ≤ run.last ∧ (code - run.first) % run.step = 0 then
    some (code + run.shift).toNat
  else none

/-- Applies a case table to one character; a character outside the table stays as it is. -/
def mapCase (expansions : List (Nat × List Nat)) (runs : List CaseRun) (c : Char) : List Char :=
  match expansions.lookup c.toNat with
  | some codes => codes.map .ofNat
  | none =>
    match runs.findSome? (CaseRun.shift? c.toNat) with
    | some code => [.ofNat code]
    | none => [c]

/-- The upper case of one character. -/
def upperChar (c : Char) : List Char :=
  if c.toNat < 0x80 then [c.toUpper] else mapCase upperExpansions upperRuns c

/-- The lower case of one character on its own. -/
def lowerChar (c : Char) : List Char :=
  if c.toNat < 0x80 then [c.toLower] else mapCase lowerExpansions lowerRuns c

/-- Whether the nearest character that has a say in casing is a cased letter. -/
def nextIsCased (chars : List Char) : Bool :=
  match chars.dropWhile caseIgnorableRanges.has with
  | c :: _ => casedRanges.has c
  | [] => false

/-- Lowers characters from left to right; `before` holds those already passed, the nearest first. -/
def lowerFrom (before : List Char) : List Char → List Char
  | [] => []
  | c :: rest =>
    let lowered :=
      if c = 'Σ' then [if nextIsCased before && !nextIsCased rest then 'ς' else 'σ']
      else lowerChar c
    lowered ++ lowerFrom (c :: before) rest

/-- The upper case of a text. -/
def upper (text : String) : String :=
  .ofList (text.toList.flatMap upperChar)

/-- The lower case of a text. -/
def lower (text : String) : String :=
  .ofList (lowerFrom [] text.toList)

end Rationale.Text
