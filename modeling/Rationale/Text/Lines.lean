/-
Module: Rationale.Text.Lines
Purpose: Lines of a text.
Main exports: Text.lines, Text.unlines
-/

namespace Rationale.Text

/-!
A line ends at a line feed, and a carriage return directly before that line feed belongs to the
ending.  A carriage return anywhere else is an ordinary character, and a text that ends in a line
feed has no empty line after it.
-/

/-- Puts a character in front of the first line, which begins here if there is none yet. -/
def consLine (c : Char) : List (List Char) → List (List Char)
  | [] => [[c]]
  | line :: rest => (c :: line) :: rest

/-- The lines of a list of characters, without their endings. -/
def linesOf : List Char → List (List Char)
  | [] => []
  | '\n' :: rest => [] :: linesOf rest
  | '\r' :: '\n' :: rest => [] :: linesOf rest
  | c :: rest => consLine c (linesOf rest)

/-- The lines of a text, without their endings. -/
def lines (text : String) : List String :=
  (linesOf text.toList).map .ofList

/-- Lines as one text, with a line feed between neighbours. -/
def unlines (texts : List String) : String :=
  "\n".intercalate texts

end Rationale.Text
