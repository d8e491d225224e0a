/-
Keyed digests, and keys from keys.

`hmac` authenticates a message under a key of any length. `Hkdf.derive` turns
input keying material into as many bytes of output as the caller names: an
extraction with the salt as key, then one authentication per output block, each
over the block before it, the purpose text and the number of the block.
-/
import ModelProtection.Primitive.Sha2

set_option autoImplicit false

namespace ModelProtection

open Sha2

/-! ## HMAC-SHA-256 -/

namespace Hmac

/-- The number of bytes that the inner digest takes in at a time. -/
def blockSize : Nat := 64

/-- A key as one block: digested if it is longer, filled up with zero bytes if it is shorter. -/
def blockKey (key : Bytes) : Bytes :=
  let short := if key.length > blockSize then (sha256 key).toList else key
  short ++ List.replicate (blockSize - short.length) 0

end Hmac

/-- The HMAC-SHA-256 tag of a message. -/
def hmac (key message : Bytes) : Octets 32 :=
  let block := Hmac.blockKey key
  let inner := sha256 (block.map (· ^^^ 0x36) ++ message)
  sha256 (block.map (· ^^^ 0x5c) ++ inner.toList)

/-! ## HKDF-SHA-256 -/

namespace Hkdf

/-- `count` output blocks under the extracted key, of which the first follows the block `previous`
and has the number `index`. -/
def blocks (extracted : Bytes) (info : Bytes) : Nat → Nat → Bytes → Bytes
  | 0, _, _ => []
  | count + 1, index, previous =>
    let block := (hmac extracted (previous ++ info ++ [UInt8.ofNat index])).toList
    block ++ blocks extracted info count (index + 1) block

theorem length_blocks (extracted info : Bytes) (count index : Nat) (previous : Bytes) :
    (blocks extracted info count index previous).length = 32 * count := by
  induction count generalizing index previous with
  | zero => rfl
  | succ count ih => simp [blocks, ih]; omega

/-- `n` bytes of key for the purpose `info`. -/
def derive (n : Nat) (salt material info : Bytes) : Octets n :=
  let extracted := (hmac salt material).toList
  ⟨(blocks extracted info ((n + 31) / 32) 1 []).take n, by
    rw [List.length_take, length_blocks]; omega⟩

end Hkdf

end ModelProtection
