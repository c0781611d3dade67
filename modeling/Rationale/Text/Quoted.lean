/-
Module: Rationale.Text.Quoted
Purpose: Texts in double quotes with escapes for what cannot be shown.
Main exports: Text.escape, Text.quoted
-/
import Rationale.Text.Printable

namespace Rationale.Text

/-!
A quote, a backslash and the four control characters with a short name are written with a
backslash.  Every other character that does not show as itself is written by its code point in
lowercase hexadecimal digits without leading zeros.
-/

/-- The written form of one character inside quotes. -/
def escape (c : Char) : List Char :=
  match c with
  | '"' => ['\\', '"']
  | '\\' => ['\\', '\\']
  | '\n' => ['\\', 'n']
  | '\r' => ['\\', 'r']
  | '\t' => ['\\', 't']
  | '\x00' => ['\\', '0']
  | c => if isPlain c then [c] else ['\\', 'u', '\x7b'] ++ Nat.toDigits 16 c.toNat ++ ['\x7d']

/-- A text in double quotes. -/
def quoted (text : String) : String :=
  .ofList ('"' :: text.toList.flatMap escape ++ ['"'])

end Rationale.Text
