/-
Module: Rationale.Proofs.Clipping
Purpose: How long a cut text is, what it keeps, and that cutting it once more changes nothing.
Main exports: Text.length_clip_of_long, Text.clip_clip, Text.IsClipping, Value.summarize_isClipping
-/
import Rationale.Value.Display

namespace Rationale

/-!
### Cut texts

A text that fits is left alone.  One that does not keeps as many characters as leave room for the
ellipsis, so that it fills the limit; the ellipsis is there even if the limit has no room for it,
and then it is all there is.
-/

namespace Text

variable {limit : Nat} {text : String}

theorem clip_of_fits (fits : text.length ≤ limit) : clip limit text = text :=
  if_pos fits

theorem clip_of_long (long : limit < text.length) :
    clip limit text = .ofList (text.toList.take (limit - ellipsis.length)) ++ ellipsis :=
  if_neg (Nat.not_le_of_lt long)

theorem clip_of_le_three (narrow : limit ≤ 3) (long : limit < text.length) :
    clip limit text = ellipsis := by
  have nothing : limit - ellipsis.length = 0 := Nat.sub_eq_zero_of_le narrow
  rw [clip_of_long long, nothing, List.take_zero]
  rfl

/-- A text that is cut keeps a beginning of it. -/
theorem exists_kept_of_long (long : limit < text.length) :
    ∃ kept : List Char, kept <+: text.toList ∧ kept.length = limit - ellipsis.length ∧
      (clip limit text).toList = kept ++ ellipsis.toList := by
  refine ⟨text.toList.take (limit - ellipsis.length), List.take_prefix _ _, ?_, ?_⟩
  · rw [List.length_take, String.length_toList]
    omega
  · rw [clip_of_long long, String.toList_append, String.toList_ofList]

theorem length_clip_of_long (long : limit < text.length) :
    (clip limit text).length = max limit ellipsis.length := by
  obtain ⟨kept, -, size, shown⟩ := exists_kept_of_long long
  rw [← String.length_toList, shown, List.length_append, size, String.length_toList]
  omega

/-- Only a limit that is too small for the ellipsis is passed, and only by a text that is cut. -/
theorem length_clip_le_iff :
    (clip limit text).length ≤ limit ↔ text.length ≤ limit ∨ ellipsis.length ≤ limit := by
  rcases Nat.lt_or_ge limit text.length with long | fits
  · rw [length_clip_of_long long]
    omega
  · rw [clip_of_fits fits]
    omega

theorem clip_clip (limit : Nat) (text : String) :
    clip limit (clip limit text) = clip limit text := by
  rcases Nat.lt_or_ge limit text.length with long | fits
  · rcases Nat.lt_or_ge limit ellipsis.length with narrow | wide
    · -- The ellipsis does not fit either, and is cut to itself.
      have small : limit ≤ 3 := Nat.le_of_lt narrow
      rw [clip_of_le_three small long, clip_of_le_three small narrow]
    · exact clip_of_fits (length_clip_le_iff.mpr (Or.inr wide))
  · rw [clip_of_fits fits, clip_of_fits fits]

/-- One text is what another is shown as within a limit.  It is the whole text if that fits, and
otherwise the beginning of it, filled up by the ellipsis; it stays within the limit unless it is the
ellipsis that is too long. -/
structure IsClipping (limit : Nat) (text shown : String) : Prop where
  whole : text.length ≤ limit → shown = text
  cut : limit < text.length → ∃ kept : List Char,
    kept <+: text.toList ∧ kept.length = limit - 3 ∧ shown.toList = kept ++ "...".toList
  bounded : shown.length ≤ limit ↔ text.length ≤ limit ∨ 3 ≤ limit
  again : clip limit shown = shown

end Text

/-- A text, and the text of a value, is shown whole where it fits, and otherwise by a beginning of
it and an ellipsis; this stays within the limit exactly where the text fits or the limit has room
for the ellipsis, and is not cut any further. -/
theorem Value.summarize_isClipping (value : Value) (text : String) (limit : Nat) :
    Text.IsClipping limit text (Text.clip limit text) ∧
      Text.IsClipping limit value.display (value.summarize limit) := by
  have clipped (text : String) : Text.IsClipping limit text (Text.clip limit text) :=
    { whole := Text.clip_of_fits
      cut := Text.exists_kept_of_long
      bounded := Text.length_clip_le_iff
      again := Text.clip_clip limit text }
  exact ⟨clipped text, clipped value.display⟩

/-- A limit of nothing is passed by the ellipsis. -/
theorem Value.summarize_exceeds :
    Text.clip 0 "abcd" = "..." ∧ Value.null.summarize 0 = "..." ∧
      ¬ (Text.clip 0 "abcd").length ≤ 0 ∧ ¬ (Value.null.summarize 0).length ≤ 0 := by
  decide

end Rationale
