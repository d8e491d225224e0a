/-
Quoted text, as messages show it.

A text stands between double quotes, a single character between single quotes.
The quote that encloses, the backslash and four control characters are written
with a backslash and a letter; a character of the table `Escaped` is written by
its code point in braces; every other character stands for itself.
-/
import ModelProtection.Text.Escaped

set_option autoImplicit false

namespace ModelProtection

namespace Quoted

/-- The digits of `n` in base sixteen, lower case, without leading zeros. -/
def hexDigits (n : Nat) : List Char := Nat.toDigits 16 n

/-- A character inside quotes of the kind `delimiter`. -/
def escape (delimiter c : Char) : List Char :=
  if c == '\x00' then ['\\', '0']
  else if c == '\t' then ['\\', 't']
  else if c == '\r' then ['\\', 'r']
  else if c == '\n' then ['\\', 'n']
  else if c == '\\' then ['\\', '\\']
  else if c == delimiter then ['\\', delimiter]
  else if Escaped.contains c then ['\\', 'u', '\x7b'] ++ hexDigits c.toNat ++ ['\x7d']
  else [c]

/-- A text between double quotes. -/
def text (s : String) : String :=
  String.ofList ('"' :: s.toList.flatMap (escape '"') ++ ['"'])

/-- A character between single quotes. -/
def character (c : Char) : String :=
  String.ofList ('\'' :: escape '\'' c ++ ['\''])

end Quoted

end ModelProtection
