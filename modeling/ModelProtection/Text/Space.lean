/-
White space.

The characters that separate words and may surround a text are the ones with
the Unicode property White_Space. The core predicate on characters knows only
the four ASCII ones among them, so the set stands here.
-/
set_option autoImplicit false

namespace ModelProtection

namespace Space

/-- Whether a character has the property White_Space. -/
def isSpace (c : Char) : Bool :=
  let n := c.toNat
  (9 ≤ n && n ≤ 13) || n == 32 || n == 0x85 || n == 0xA0 || n == 0x1680
    || (0x2000 ≤ n && n ≤ 0x200A) || n == 0x2028 || n == 0x2029 || n == 0x202F
    || n == 0x205F || n == 0x3000

/-- A text without the white space at its front. -/
def trimStart (l : List Char) : List Char := l.dropWhile isSpace

/-- A text without the white space at its end. -/
def trimEnd (l : List Char) : List Char := (l.reverse.dropWhile isSpace).reverse

/-- A text without the white space around it. -/
def trim (l : List Char) : List Char := trimEnd (trimStart l)

/-- A text without any white space. -/
def strip (l : List Char) : List Char := l.filter (fun c => !isSpace c)

end Space

end ModelProtection
