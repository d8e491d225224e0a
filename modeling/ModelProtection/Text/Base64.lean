/-
Base64 with the standard alphabet and mandatory padding.

Three bytes make four symbols; one or two left-over bytes make two or three
symbols and are filled up with `=`. The reader accepts exactly what the writer
produces: padding may not be left out, and the bits of the last symbol that
carry no data must be zero, so that every byte string has one written form.
-/
import ModelProtection.Octets

set_option autoImplicit false

namespace ModelProtection

namespace Base64

/-! ## The alphabet -/

/-- The symbol for a value below sixty-four. -/
def symbol (n : Nat) : Char :=
  if n < 26 then Char.ofNat (n + 65)
  else if n < 52 then Char.ofNat (n - 26 + 97)
  else if n < 62 then Char.ofNat (n - 52 + 48)
  else if n = 62 then '+'
  else '/'

/-- The value of a symbol. -/
def value? (b : UInt8) : Option Nat :=
  if 0x41 ≤ b && b ≤ 0x5A then some (b.toNat - 65)
  else if 0x61 ≤ b && b ≤ 0x7A then some (b.toNat - 97 + 26)
  else if 0x30 ≤ b && b ≤ 0x39 then some (b.toNat - 48 + 52)
  else if b == 0x2B then some 62
  else if b == 0x2F then some 63
  else none

/-- The padding byte, `=`. -/
def padding : UInt8 := 0x3D

/-! ## Writing -/

/-- The symbols of a byte string. -/
def encodeChars : Bytes → List Char
  | [] => []
  | [a] => [symbol (a.toNat / 4), symbol (a.toNat % 4 * 16), '=', '=']
  | [a, b] =>
    [symbol (a.toNat / 4), symbol (a.toNat % 4 * 16 + b.toNat / 16), symbol (b.toNat % 16 * 4), '=']
  | a :: b :: c :: l =>
    symbol (a.toNat / 4) :: symbol (a.toNat % 4 * 16 + b.toNat / 16)
      :: symbol (b.toNat % 16 * 4 + c.toNat / 64) :: symbol (c.toNat % 64) :: encodeChars l

/-- The symbols of a byte string, as a string. -/
def encode (l : Bytes) : String := String.ofList (encodeChars l)

/-! ## Reading -/

/-- Why a text is not the written form of any byte string. -/
inductive Error where
  /-- The byte at `offset` is no symbol, or is padding in the wrong place. -/
  | badSymbol (byte : UInt8) (offset : Nat)
  /-- The text ends after `length` bytes with a symbol that has no partner. -/
  | badLength (length : Nat)
  /-- The last symbol, at `offset`, carries bits that are dropped. -/
  | badLastSymbol (byte : UInt8) (offset : Nat)
  /-- The last group is not filled up. -/
  | badPadding
deriving DecidableEq, Repr

/-- The wording of an error. -/
def Error.message : Error → String
  | .badSymbol byte offset => s!"Invalid symbol {byte}, offset {offset}."
  | .badLength length => s!"Invalid input length: {length}"
  | .badLastSymbol byte offset => s!"Invalid last symbol {byte}, offset {offset}."
  | .badPadding => "Invalid padding"

instance : ToString Error := ⟨Error.message⟩

/-- The value of the symbol at `offset`. -/
def valueAt (offset : Nat) (b : UInt8) : Except Error Nat :=
  match value? b with
  | some v => .ok v
  | none => .error (.badSymbol b offset)

/-- The symbols in front of the padding of a last group, and the number of padding bytes. -/
structure Tail where
  /-- The values of the symbols, first to last. -/
  values : List Nat
  /-- The last symbol as it was written. -/
  last : UInt8
  /-- How many padding bytes follow. -/
  pads : Nat

/-- Reads the last group, which starts at `start`. `position` is the position in the group. Padding
needs two symbols in front of it and nothing but padding behind it. -/
def scanTail (start position : Nat) (t : Tail) : Bytes → Except Error Tail
  | [] => .ok t
  | b :: l =>
    if b = padding then
      if position < 2 then .error (.badSymbol b (start + position))
      else scanTail start (position + 1) { t with pads := t.pads + 1 } l
    else if t.pads > 0 then .error (.badSymbol padding (start + t.values.length))
    else do
      let v ← valueAt (start + position) b
      scanTail start (position + 1) { t with values := t.values ++ [v], last := b } l

/-- The bytes of a group whose last symbols may be missing, and the bits that remain. -/
def groupBytes : List Nat → Bytes × Nat
  | [v, w] => ([UInt8.ofNat (v * 4 + w / 16)], w % 16)
  | [v, w, x] => ([UInt8.ofNat (v * 4 + w / 16), UInt8.ofNat (w % 16 * 16 + x / 4)], x % 4)
  | [v, w, x, y] =>
    ([UInt8.ofNat (v * 4 + w / 16), UInt8.ofNat (w % 16 * 16 + x / 4), UInt8.ofNat (x % 4 * 64 + y)], 0)
  | _ => ([], 0)

/-- The bytes of the last group, which starts at `start`. -/
def decodeTail (start : Nat) (l : Bytes) : Except Error Bytes := do
  let t ← scanTail start 0 ⟨[], 0, 0⟩ l
  if t.values.length < 2 then throw (.badLength (start + t.values.length))
  if (t.pads + t.values.length) % 4 ≠ 0 then throw .badPadding
  let (bytes, left) := groupBytes t.values
  if left ≠ 0 then throw (.badLastSymbol t.last (start + t.values.length - 1))
  return bytes

/-- The bytes of a text that starts at `start`. Every group but the last is four symbols. -/
def decodeFrom (start : Nat) : Bytes → Except Error Bytes
  | a :: b :: c :: d :: e :: l => do
    let v ← valueAt start a
    let w ← valueAt (start + 1) b
    let x ← valueAt (start + 2) c
    let y ← valueAt (start + 3) d
    let rest ← decodeFrom (start + 4) (e :: l)
    return UInt8.ofNat (v * 4 + w / 16) :: UInt8.ofNat (w % 16 * 16 + x / 4)
      :: UInt8.ofNat (x % 4 * 64 + y) :: rest
  | l => decodeTail start l

/-- The bytes that a text spells. A stray byte after complete groups is reported first, because it
most often is a line end that was left on. -/
def decode (l : Bytes) : Except Error Bytes :=
  match l.getLast? with
  | none => .ok []
  | some b =>
    if l.length % 4 = 1 ∧ b ≠ padding ∧ value? b = none then .error (.badSymbol b (l.length - 1))
    else decodeFrom 0 l

end Base64

end ModelProtection
