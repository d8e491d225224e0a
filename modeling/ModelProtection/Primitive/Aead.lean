/-
Authenticated encryption with ChaCha20 and Poly1305.

Block zero of the key stream is the key of the authenticator; the message is
combined with the blocks from one on. A sealed message is the combined bytes
followed by the tag over them, so sealing is injective for a key and a nonce,
and `unseal` gives a message back exactly when it is given a sealed one.
-/
import ModelProtection.Primitive.ChaCha20
import ModelProtection.Primitive.Poly1305

set_option autoImplicit false

namespace ModelProtection

namespace Aead

/-- The number of bytes in a tag. -/
def tagSize : Nat := 16

/-- A message this long needs more blocks than the block counter can number. -/
def tooLong (length : Nat) : Bool := Nat.pow 2 32 - 1 ≤ length / ChaCha20.blockSize

/-- Zero bytes up to the next multiple of sixteen. -/
def padding (length : Nat) : Bytes := List.replicate ((16 - length % 16) % 16) 0

/-- The tag over encrypted bytes: over the bytes, their padding, and the lengths of the empty header
and of the bytes. -/
def tag (key : Octets 32) (nonce : Octets 12) (encrypted : Bytes) : Octets 16 :=
  let once : Octets 32 := .ofListPadded 32 (ChaCha20.block key nonce 0)
  Poly1305.tag once
    (encrypted ++ padding encrypted.length ++ toLittleEndian 8 0 ++ toLittleEndian 8 encrypted.length)

/-- The sealed form of a message, unless it is too long. -/
def sealed? (key : Octets 32) (nonce : Octets 12) (message : Bytes) : Option Bytes :=
  if tooLong message.length then none
  else
    let encrypted := ChaCha20.apply key nonce 1 message
    some (encrypted ++ (tag key nonce encrypted).toList)

/-- The message of a sealed form, if its tag is right. -/
def unsealed? (key : Octets 32) (nonce : Octets 12) (sealedBytes : Bytes) : Option Bytes :=
  if sealedBytes.length < tagSize then none
  else
    let size := sealedBytes.length - tagSize
    let encrypted := sealedBytes.take size
    if tooLong size then none
    else if (tag key nonce encrypted).toList = sealedBytes.drop size then
      some (ChaCha20.apply key nonce 1 encrypted)
    else none

end Aead

end ModelProtection
