import Formula.Unicode.Mark
import Formula.Unicode.Printable

/-!
# Quoted text

A text between double quotes in which every character can be told apart: quotes and backslashes are
escaped, common controls have a letter, and all else that does not print by itself is written as its
code point.
-/

namespace Formula.Text
open Formula.Unicode

/-- The code point of a character between braces, in small hexadecimal digits. -/
def codePointEscape (c : Char) : List Char :=
  "\\u\x7b".toList ++ Nat.toDigits 16 c.toNat ++ ['\x7d']

/-- A character as it stands between the quotes. -/
def escape (c : Char) : List Char :=
  match c with
  | '\x00' => ['\\', '0']
  | '\t' => ['\\', 't']
  | '\r' => ['\\', 'r']
  | '\n' => ['\\', 'n']
  | '\\' => ['\\', '\\']
  | '\x22' => ['\\', '\x22']
  | _ => if isGraphemeExtend c || !isPrintable c then codePointEscape c else [c]

/-- A text between double quotes. -/
def quoted (text : String) : String :=
  String.ofList ('\x22' :: text.toList.flatMap escape ++ ['\x22'])

end Formula.Text
