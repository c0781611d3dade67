/-
Module: Rationale.Text.Clip
Purpose: Shortening of a long text to a number of characters.
Main exports: Text.clip
-/

namespace Rationale.Text

/-- The mark that stands for the part of a text that was cut off. -/
def ellipsis : String := "..."

/-- Leaves a text of at most `limit` characters as it is, and cuts a longer one so that the part
kept and the ellipsis together have `limit` characters; a limit below three leaves the ellipsis
alone. -/
def clip (limit : Nat) (text : String) : String :=
  if text.length ≤ limit then text
  else .ofList (text.toList.take (limit - ellipsis.length)) ++ ellipsis

end Rationale.Text
