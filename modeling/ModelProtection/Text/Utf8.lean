/-
Text as bytes.

A text is a list of characters; `Utf8.encode` writes it as bytes and
`Utf8.decode` reads bytes back. Reading is one scan, `Utf8.parts`, that cuts a
byte string into characters and malformed parts. A malformed part is as long as
it can be while it is still the beginning of some character, which is what the
refusals of `decode` count and what `decodeLossy` replaces, one mark per part.
Where a text may be cut is seen from a single byte (`isBoundary`).
-/
import ModelProtection.Octets

set_option autoImplicit false

namespace ModelProtection

namespace Utf8

/-! ## Writing -/

/-- The bytes of a text, one to four for each character. -/
def encode (l : List Char) : Bytes := l.flatMap String.utf8EncodeChar

@[simp] theorem encode_nil : encode [] = [] := rfl

@[simp] theorem encode_cons (c : Char) (l : List Char) :
    encode (c :: l) = String.utf8EncodeChar c ++ encode l := rfl

@[simp] theorem encode_append (l₁ l₂ : List Char) : encode (l₁ ++ l₂) = encode l₁ ++ encode l₂ := by
  simp [encode]

/-! ## Reading -/

/-- A piece of a byte string that is being read as text. -/
inductive Part where
  /-- A well-formed character. -/
  | character (c : Char)
  /-- Bytes that begin no character when the next byte is taken in. -/
  | malformed (width : Nat)
  /-- Bytes that begin a character, at the end of the string. -/
  | cutShort (width : Nat)
deriving DecidableEq, Repr

/-- Whether a byte continues a character: its two high bits are `10`. -/
def isTail (b : UInt8) : Bool := 0x80 ≤ b && b ≤ 0xBF

/-- Whether `b` may follow the first byte `a` of a character of three bytes: the ranges leave out
overlong forms and surrogates. -/
def isSecondOfThree (a b : UInt8) : Bool :=
  if a == 0xE0 then 0xA0 ≤ b && b ≤ 0xBF
  else if a == 0xED then 0x80 ≤ b && b ≤ 0x9F
  else isTail b

/-- Whether `b` may follow the first byte `a` of a character of four bytes: the ranges leave out
overlong forms and values past the last code point. -/
def isSecondOfFour (a b : UInt8) : Bool :=
  if a == 0xF0 then 0x90 ≤ b && b ≤ 0xBF
  else if a == 0xF4 then 0x80 ≤ b && b ≤ 0x8F
  else isTail b

/-- The value of the six low bits of a continuation byte. -/
def tailBits (b : UInt8) : Nat := b.toNat - 0x80

/-- The characters and malformed parts of a byte string, in order. -/
def parts : Bytes → List Part
  | [] => []
  | a :: l =>
    if a ≤ 0x7F then .character (Char.ofNat a.toNat) :: parts l
    else if 0xC2 ≤ a && a ≤ 0xDF then
      match l with
      | [] => [.cutShort 1]
      | b :: l₁ =>
        if isTail b then
          .character (Char.ofNat ((a.toNat - 0xC0) * 64 + tailBits b)) :: parts l₁
        else .malformed 1 :: parts (b :: l₁)
    else if 0xE0 ≤ a && a ≤ 0xEF then
      match l with
      | [] => [.cutShort 1]
      | b :: l₁ =>
        if isSecondOfThree a b then
          match l₁ with
          | [] => [.cutShort 2]
          | c :: l₂ =>
            if isTail c then
              .character (Char.ofNat (((a.toNat - 0xE0) * 64 + tailBits b) * 64 + tailBits c))
                :: parts l₂
            else .malformed 2 :: parts (c :: l₂)
        else .malformed 1 :: parts (b :: l₁)
    else if 0xF0 ≤ a && a ≤ 0xF4 then
      match l with
      | [] => [.cutShort 1]
      | b :: l₁ =>
        if isSecondOfFour a b then
          match l₁ with
          | [] => [.cutShort 2]
          | c :: l₂ =>
            if isTail c then
              match l₂ with
              | [] => [.cutShort 3]
              | d :: l₃ =>
                if isTail d then
                  .character (Char.ofNat
                    ((((a.toNat - 0xF0) * 64 + tailBits b) * 64 + tailBits c) * 64 + tailBits d))
                    :: parts l₃
                else .malformed 3 :: parts (d :: l₃)
            else .malformed 2 :: parts (c :: l₂)
        else .malformed 1 :: parts (b :: l₁)
    else .malformed 1 :: parts l
termination_by l => l.length

/-- Why a byte string is not a text. -/
inductive Error where
  /-- A malformed part of `width` bytes starts at `index`. -/
  | malformed (width index : Nat)
  /-- The string ends inside the character that starts at `index`. -/
  | incomplete (index : Nat)
deriving DecidableEq, Repr

/-- The wording of an error. -/
def Error.message : Error → String
  | .malformed width index => s!"invalid utf-8 sequence of {width} bytes from index {index}"
  | .incomplete index => s!"incomplete utf-8 byte sequence from index {index}"

instance : ToString Error := ⟨Error.message⟩

/-- The characters of a scan that found nothing malformed; otherwise the first fault, with the
number of bytes in front of it, counted from `index`. -/
def collect (index : Nat) : List Part → Except Error (List Char)
  | [] => .ok []
  | .character c :: l => (collect (index + c.utf8Size) l).map (c :: ·)
  | .malformed width :: _ => .error (.malformed width index)
  | .cutShort _ :: _ => .error (.incomplete index)

/-- The text that a byte string encodes. -/
def decodeChars (l : Bytes) : Except Error (List Char) := collect 0 (parts l)

/-- The text that a byte string encodes, as a string. -/
def decode (l : Bytes) : Except Error String := (decodeChars l).map String.ofList

/-- The mark that stands for a malformed part. -/
def replacement : Char := '\uFFFD'

/-- The character that shows a part. -/
def Part.shown : Part → Char
  | .character c => c
  | .malformed _ => replacement
  | .cutShort _ => replacement

/-- The text of a byte string with each malformed part replaced by one mark. -/
def decodeLossy (l : Bytes) : String := String.ofList ((parts l).map Part.shown)

/-! ## Boundaries -/

/-- Whether an offset into the bytes of a text is one of its ends or the start of a character. -/
def isBoundary (l : Bytes) (i : Nat) : Bool :=
  i == 0 || match l[i]? with
    | some b => !isTail b
    | none => i == l.length

/-- The first boundary that is met going back from an offset byte by byte, if one is met before the
offset would drop below zero. -/
def lastBoundary? (l : Bytes) (i : Nat) : Option Nat :=
  if isBoundary l i then some i
  else match i with
    | 0 => none
    | i + 1 => lastBoundary? l i

end Utf8

/-- The bytes of a string. -/
def textBytes (s : String) : Bytes := Utf8.encode s.toList

@[simp] theorem textBytes_ofList (l : List Char) : textBytes (String.ofList l) = Utf8.encode l := by
  simp [textBytes]

end ModelProtection
