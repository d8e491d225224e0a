/-
JSON trees and their written forms.

The documents of this library are made of strings, lists and objects, so a tree
has these three kinds of node. There are two written forms. The compact one has
no white space. The indented one puts every element and member on a line of its
own, two blanks deeper than what it stands in; an empty list or object has no
line inside.

A written form is first a sequence of pieces, the portions in which it is handed
to a buffer, and then the text that they make together.
-/
import ModelProtection.Octets
import ModelProtection.Text.Quoted

set_option autoImplicit false

namespace ModelProtection

/-- A JSON value made of strings, lists and objects. -/
inductive Json where
  /-- A string. -/
  | text (s : String)
  /-- A list. -/
  | list (elements : List Json)
  /-- An object, with its members in order. -/
  | object (members : List (String × Json))

namespace Json

/-! ## Strings -/

/-- The two digits of a code below 32. -/
def controlDigits (n : Nat) : List Char := [Nat.digitChar (n / 16), Nat.digitChar (n % 16)]

/-- A character inside a string. The quote, the backslash and the control characters are escaped;
everything else stands for itself. -/
def escapeChar (c : Char) : List Char :=
  if c = '"' then ['\\', '"']
  else if c = '\\' then ['\\', '\\']
  else if c = '\x08' then ['\\', 'b']
  else if c = '\x0c' then ['\\', 'f']
  else if c = '\n' then ['\\', 'n']
  else if c = '\r' then ['\\', 'r']
  else if c = '\t' then ['\\', 't']
  else if c.toNat < 32 then ['\\', 'u', '0', '0'] ++ controlDigits c.toNat
  else [c]

/-- The inside of a string. -/
def escape (l : List Char) : List Char := l.flatMap escapeChar

/-- The pieces of a string: its quotes and what is between them. -/
def quotedPieces (s : String) : List (List Char) := [['"'], escape s.toList, ['"']]

/-! ## The compact form -/

mutual

/-- The text of a value without white space. -/
def compact : Json → List Char
  | .text s => (quotedPieces s).flatten
  | .list l => '[' :: compactElements true l ++ [']']
  | .object l => '\x7b' :: compactMembers true l ++ ['\x7d']

/-- The text of the elements of a list; a comma comes before all but the first. -/
def compactElements (first : Bool) : List Json → List Char
  | [] => []
  | v :: l => (if first then [] else [',']) ++ compact v ++ compactElements false l

/-- The text of the members of an object; a comma comes before all but the first. -/
def compactMembers (first : Bool) : List (String × Json) → List Char
  | [] => []
  | (k, v) :: l =>
    (if first then [] else [',']) ++ (quotedPieces k).flatten ++ ':' :: compact v
      ++ compactMembers false l

end

/-! ## The indented form -/

/-- A new line that is indented to a depth. -/
def lineBreak (depth : Nat) : List Char := '\n' :: List.replicate (2 * depth) ' '

mutual

/-- The pieces of a value that stands at a depth. -/
def pieces (depth : Nat) : Json → List (List Char)
  | .text s => quotedPieces s
  | .list [] => [['[', ']']]
  | .list (v :: l) =>
    ['['] :: elementPieces depth true (v :: l) ++ [lineBreak depth, [']']]
  | .object [] => [['\x7b', '\x7d']]
  | .object (m :: l) =>
    ['\x7b'] :: memberPieces depth true (m :: l) ++ [lineBreak depth, ['\x7d']]

/-- The pieces of the elements of a list that stands at a depth. -/
def elementPieces (depth : Nat) (first : Bool) : List Json → List (List Char)
  | [] => []
  | v :: l =>
    ((if first then [] else [',']) ++ lineBreak (depth + 1))
      :: pieces (depth + 1) v ++ elementPieces depth false l

/-- The pieces of the members of an object that stands at a depth. -/
def memberPieces (depth : Nat) (first : Bool) : List (String × Json) → List (List Char)
  | [] => []
  | (k, v) :: l =>
    ((if first then [] else [',']) ++ lineBreak (depth + 1))
      :: quotedPieces k ++ [':', ' '] :: pieces (depth + 1) v ++ memberPieces depth false l

end

/-- The indented text of a value. -/
def pretty (v : Json) : List Char := (pieces 0 v).flatten

end Json

end ModelProtection
