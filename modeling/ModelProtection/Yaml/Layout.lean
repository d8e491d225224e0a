/-
The layout of a text.

In YAML it matters where a character stands: the column of a key says which
mapping it belongs to, and a key must end on the line on which it begins. The
layout of a text gives every character its place. Line ends come out of it in
one spelling: a carriage return, a line feed, both together, and the next-line
character are all a line feed, while the two separators of Unicode stay what
they are.
-/
set_option autoImplicit false

namespace ModelProtection

namespace Yaml

/-- Where a character stands, counted from 0. -/
structure Place where
  /-- The number of characters in front. -/
  index : Nat := 0
  /-- The line. -/
  line : Nat := 0
  /-- The number of characters in front on the line. -/
  column : Nat := 0
deriving DecidableEq, Repr

/-- The place of the next character on the line. -/
def Place.next (p : Place) : Place := { p with index := p.index + 1, column := p.column + 1 }

/-- The place behind a line end of `width` characters. -/
def Place.nextLine (p : Place) (width : Nat) : Place := ⟨p.index + width, p.line + 1, 0⟩

/-- A character and its place. -/
structure Cell where
  /-- The character. -/
  char : Char
  /-- Where it stands. -/
  place : Place
deriving DecidableEq, Repr

/-- The column of a character. -/
def Cell.column (c : Cell) : Nat := c.place.column

/-! ## Kinds of characters -/

/-- Whether a character is a space or a tab. -/
def isBlank (c : Char) : Bool := c == ' ' || c == '\t'

/-- Whether a character is one of the two separators of Unicode. -/
def isSeparator (c : Char) : Bool := c == '\u2028' || c == '\u2029'

/-- Whether a character ends a line. -/
def isBreak (c : Char) : Bool := c == '\n' || c == '\r' || c == '\u0085' || isSeparator c

/-- Whether a character may be part of a text: tabs, line ends and everything that is no control
character. -/
def mayStand (c : Char) : Bool :=
  let n := c.toNat
  n == 0x09 || n == 0x0A || n == 0x0D || (0x20 ≤ n && n ≤ 0x7E) || n == 0x85
    || (0xA0 ≤ n && n ≤ 0xFFFD) || 0x10000 ≤ n

/-- Whether a character may be part of a name: an ASCII letter or digit, an underscore or a hyphen. -/
def isNameChar (c : Char) : Bool := c.isAlphanum || c == '_' || c == '-'

/-- The mark that may stand in front of a text and says how it is encoded. -/
def byteOrderMark : Char := '\uFEFF'

/-! ## Laying out -/

/-- The cells of a text whose first character stands at `p`. -/
def cellsFrom (p : Place) : List Char → List Cell
  | [] => []
  | '\r' :: '\n' :: l => ⟨'\n', p⟩ :: cellsFrom (p.nextLine 2) l
  | c :: l =>
    if isBreak c then ⟨if isSeparator c then c else '\n', p⟩ :: cellsFrom (p.nextLine 1) l
    else ⟨c, p⟩ :: cellsFrom p.next l

/-- The cells of a text, without the mark in front of it. A text with a control character has no
layout. -/
def cells? (l : List Char) : Option (List Cell) :=
  let l := match l with
    | c :: rest => if c = byteOrderMark then rest else l
    | [] => []
  if l.all mayStand then some (cellsFrom {} l) else none

/-! ## Looking ahead -/

/-- Whether the next character is `c`. -/
def nextIs (c : Char) (l : List Cell) : Bool := l.head?.any (·.char == c)

/-- Whether a word ends here: at the end of the text, a blank or a line end. -/
def wordEnds : List Cell → Bool
  | [] => true
  | c :: _ => isBlank c.char || isBreak c.char

/-- Whether a line consists of three times the same mark here, up to the next blank. -/
def isDocumentMark (mark : Char) : List Cell → Bool
  | a :: b :: c :: l =>
    a.column == 0 && a.char == mark && b.char == mark && c.char == mark && wordEnds l
  | _ => false

/-- Whether a document begins or ends here. -/
def isBoundary (l : List Cell) : Bool := isDocumentMark '-' l || isDocumentMark '.' l

/-- The characters at the front that satisfy `p`, and the rest. -/
def spanChars (p : Char → Bool) (l : List Cell) : List Char × List Cell :=
  ((l.takeWhile (p ·.char)).map (·.char), l.dropWhile (p ·.char))

/-- What follows the blanks. -/
def skipBlanks (l : List Cell) : List Cell := l.dropWhile (isBlank ·.char)

/-- The next line, if nothing but blanks and a comment is left on this one. -/
def nextLine? (l : List Cell) : Option (List Cell) :=
  let l := skipBlanks l
  let l := if nextIs '#' l then l.dropWhile (!isBreak ·.char) else l
  match l with
  | [] => some []
  | c :: rest => if isBreak c.char then some rest else none

end Yaml

end ModelProtection
