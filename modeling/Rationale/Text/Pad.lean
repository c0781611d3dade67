/-
Module: Rationale.Text.Pad
Purpose: Padding of a text to a width, and the end of a program that pads beyond every width.
Main exports: Panic, Text.widthLimit, Text.padEnd
-/

namespace Rationale

/-- The end of a program that has no answer to give, not even a fault. -/
structure Panic where
  message : String
deriving Repr, DecidableEq

/-- The end of a program that pads a text to more than the greatest width. -/
def Panic.widthOutOfRange : Panic where
  message := "Formatting argument out of range"

namespace Text

/-- The greatest width of a padded text; a width has to fit in sixteen bits. -/
def widthLimit : Nat := 65535

/-- Fills a text with spaces up to a number of characters; a longer text stays as it is. -/
def filled (width : Nat) (text : String) : String :=
  text ++ .ofList (.replicate (width - text.length) ' ')

/-- Pads a text to a width.  What the text is makes no difference to whether the width is one. -/
def padEnd (width : Nat) (text : String) : Except Panic String :=
  if width ≤ widthLimit then .ok (filled width text) else .error .widthOutOfRange

end Text

end Rationale
