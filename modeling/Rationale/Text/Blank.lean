/-
Module: Rationale.Text.Blank
Purpose: White space and its removal from the ends of a text.
Main exports: Text.isBlank, Text.trim, Text.trimEnd
-/
import Rationale.Text.Ranges

namespace Rationale.Text

/-- The code points with the White_Space property. -/
def blanks : Ranges :=
  [(0x09, 0x0d), (0x20, 0x20), (0x85, 0x85), (0xa0, 0xa0), (0x1680, 0x1680), (0x2000, 0x200a),
    (0x2028, 0x2029), (0x202f, 0x202f), (0x205f, 0x205f), (0x3000, 0x3000)]

/-- Whether a character is white space; the zero-width ones are not. -/
def isBlank (c : Char) : Bool :=
  blanks.has c

/-- Drops the white space at the end of a list of characters. -/
def dropBlankEnd (chars : List Char) : List Char :=
  (chars.reverse.dropWhile isBlank).reverse

/-- Drops the white space at the end of a text. -/
def trimEnd (text : String) : String :=
  .ofList (dropBlankEnd text.toList)

/-- Drops the white space at both ends of a text. -/
def trim (text : String) : String :=
  .ofList (dropBlankEnd (text.toList.dropWhile isBlank))

end Rationale.Text
