/-
Bytes as pairs of hexadecimal digits.

Writing is lower case; reading takes either case. A reader either knows how many
bytes it wants (`decodeSized`) or takes what is there (`decode`). Both look at
the number of digits before they look at any digit, so a text with two faults is
reported by its length.
-/
import ModelProtection.Octets
import ModelProtection.Text.Quoted

set_option autoImplicit false

namespace ModelProtection

namespace Hex

/-! ## Digits -/

/-- The digit for a value below sixteen. -/
def digitChar (n : Nat) : Char := Nat.digitChar n

/-- The value of a digit of either case. -/
def digitValue? (b : UInt8) : Option Nat :=
  if 0x30 ≤ b && b ≤ 0x39 then some (b.toNat - 0x30)
  else if 0x61 ≤ b && b ≤ 0x66 then some (b.toNat - 0x61 + 10)
  else if 0x41 ≤ b && b ≤ 0x46 then some (b.toNat - 0x41 + 10)
  else none

/-- Whether a character is a hexadecimal digit of either case. -/
def isDigit (c : Char) : Bool :=
  ('0' ≤ c && c ≤ '9') || ('a' ≤ c && c ≤ 'f') || ('A' ≤ c && c ≤ 'F')

/-! ## Writing -/

/-- The two digits of a byte, high half first. -/
def ofByte (b : UInt8) : List Char := [digitChar (b.toNat / 16), digitChar (b.toNat % 16)]

/-- The digits of a byte string. -/
def encodeChars (l : Bytes) : List Char := l.flatMap ofByte

/-- The digits of a byte string, as a string. -/
def encode (l : Bytes) : String := String.ofList (encodeChars l)

/-! ## Reading -/

/-- Why digits do not spell a byte string. -/
inductive Error where
  /-- A digit has no partner. -/
  | oddLength
  /-- The digits spell another number of bytes than the reader wants. -/
  | wrongLength
  /-- The byte at `position` is no digit. -/
  | badDigit (byte : UInt8) (position : Nat)
deriving DecidableEq, Repr

/-- The wording of an error. The offending byte is shown as the character with its code. -/
def Error.message : Error → String
  | .oddLength => "Odd number of digits"
  | .wrongLength => "Invalid string length"
  | .badDigit byte position =>
    s!"Invalid character {Quoted.character (Char.ofNat byte.toNat)} at position {position}"

instance : ToString Error := ⟨Error.message⟩

/-- The value of the digit at `position`. -/
def digitAt (position : Nat) (b : UInt8) : Except Error Nat :=
  match digitValue? b with
  | some v => .ok v
  | none => .error (.badDigit b position)

/-- The bytes that pairs of digits spell; the first digit stands at `position`. -/
def decodePairs (position : Nat) : Bytes → Except Error Bytes
  | a :: b :: l => do
    let high ← digitAt position a
    let low ← digitAt (position + 1) b
    let rest ← decodePairs (position + 2) l
    return UInt8.ofNat (high * 16 + low) :: rest
  | _ => return []

/-- The bytes that a text of digits spells. -/
def decode (l : Bytes) : Except Error Bytes :=
  if l.length % 2 = 1 then .error .oddLength else decodePairs 0 l

/-- The `n` bytes that a text of digits spells. -/
def decodeSized (n : Nat) (l : Bytes) : Except Error (Octets n) := do
  if l.length % 2 = 1 then throw .oddLength
  if l.length / 2 ≠ n then throw .wrongLength
  let bytes ← decodePairs 0 l
  match Octets.ofList? n bytes with
  | some o => return o
  | none => throw .wrongLength

end Hex

end ModelProtection
