/-
The Poly1305 one-time authenticator.

A message is cut into groups of sixteen bytes; each group, with a one byte
behind it, is a number, and the numbers are the coefficients of a polynomial
that is evaluated at the clamped first half of the key, modulo `2^130 - 5`. The
second half of the key is added to the value at the end.
-/
import ModelProtection.Octets

set_option autoImplicit false

namespace ModelProtection

namespace Poly1305

/-- The modulus. -/
def modulus : Nat := Nat.pow 2 130 - 5

/-- The bits of the evaluation point that may be set. -/
def clampMask : Nat := 0x0ffffffc0ffffffc0ffffffc0fffffff

/-- The value after the groups of a message, from the value `acc` in front of them; `count` bounds
the number of groups. -/
def evaluate (point : Nat) : Nat → Nat → Bytes → Nat
  | 0, acc, _ => acc
  | _ + 1, acc, [] => acc
  | count + 1, acc, b :: l =>
    let group := (b :: l).take 16
    evaluate point count ((acc + littleEndian (group ++ [1])) * point % modulus) ((b :: l).drop 16)

/-- The tag of a message under a key that is used once. -/
def tag (key : Octets 32) (message : Bytes) : Octets 16 :=
  let point := littleEndian (key.toList.take 16) &&& clampMask
  let shift := littleEndian (key.toList.drop 16)
  ⟨toLittleEndian 16 (evaluate point message.length 0 message + shift), by simp⟩

end Poly1305

end ModelProtection
