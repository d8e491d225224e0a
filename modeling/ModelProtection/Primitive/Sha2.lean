/-
The SHA-2 family.

Every member has the same shape and differs only in its words and constants, so
the compression is written once over a `Family`. A block is sixteen words; the
message schedule is never stored in full, because each round needs only the
sixteen words of a sliding window: the first one is used, and the next word of
the schedule, computed from four of them, comes in at the end.
-/
import ModelProtection.Octets

set_option autoImplicit false

namespace ModelProtection

namespace Sha2

/-! ## One compression for all members -/

/-- The eight chaining words. -/
structure State (α : Type) where
  /-- The first word. -/
  a : α
  /-- The second word. -/
  b : α
  /-- The third word. -/
  c : α
  /-- The fourth word. -/
  d : α
  /-- The fifth word. -/
  e : α
  /-- The sixth word. -/
  f : α
  /-- The seventh word. -/
  g : α
  /-- The eighth word. -/
  h : α

/-- The words of a state, in order. -/
def State.words {α : Type} (s : State α) : List α := [s.a, s.b, s.c, s.d, s.e, s.f, s.g, s.h]

/-- What a member of the family is made of. -/
structure Family (α : Type) where
  /-- The chaining words before the first block. -/
  initial : State α
  /-- One constant per round. -/
  constants : List α
  /-- The mixing of the first chaining word. -/
  mixFirst : α → α
  /-- The mixing of the fifth chaining word. -/
  mixFifth : α → α
  /-- The mixing of the word fifteen places back in the schedule. -/
  mixFar : α → α
  /-- The mixing of the word two places back in the schedule. -/
  mixNear : α → α
  /-- The number of bytes in a word. -/
  wordSize : Nat
  /-- A word from its bytes. -/
  ofBytes : Bytes → α
  /-- The bytes of a word. -/
  toBytes : α → Bytes

section Compression

variable {α : Type} [Add α] [AndOp α] [XorOp α] [Complement α]

/-- The word that enters a window of the schedule. -/
def Family.nextWord (F : Family α) : List α → List α
  | [w0, w1, _, _, _, _, _, _, _, w9, _, _, _, _, w14, _] =>
    [F.mixNear w14 + w9 + F.mixFar w1 + w0]
  | _ => []

/-- One round with the constant `k`: uses the first word of the window and slides it on. -/
def Family.round (F : Family α) (p : State α × List α) (k : α) : State α × List α :=
  match p with
  | (s, []) => (s, [])
  | (s, w :: ws) =>
    let t₁ := s.h + F.mixFifth s.e + ((s.e &&& s.f) ^^^ (~~~s.e &&& s.g)) + k + w
    let t₂ := F.mixFirst s.a + ((s.a &&& s.b) ^^^ (s.a &&& s.c) ^^^ (s.b &&& s.c))
    ({ a := t₁ + t₂, b := s.a, c := s.b, d := s.c, e := s.d + t₁, f := s.e, g := s.f, h := s.g },
      ws ++ F.nextWord (w :: ws))

/-- The chaining words after a block of sixteen words. -/
def Family.compress (F : Family α) (s : State α) (block : List α) : State α :=
  let t := (F.constants.foldl F.round (s, block)).1
  { a := s.a + t.a, b := s.b + t.b, c := s.c + t.c, d := s.d + t.d
    e := s.e + t.e, f := s.f + t.f, g := s.g + t.g, h := s.h + t.h }

end Compression

/-- The pieces of `size` elements that a list is cut into; `count` of them. -/
def cut {α : Type} (size : Nat) : Nat → List α → List (List α)
  | 0, _ => []
  | count + 1, l => l.take size :: cut size count (l.drop size)

/-- The message followed by a one bit, zero bits up to the end of a block, and its length in bits. -/
def Family.pad {α : Type} (F : Family α) (message : Bytes) : Bytes :=
  let block := 16 * F.wordSize
  let tail := 1 + 2 * F.wordSize
  let fill := (block - (message.length + tail) % block) % block
  message ++ 0x80 :: List.replicate fill 0 ++ toBigEndian (2 * F.wordSize) (8 * message.length)

/-- The chaining words after a whole message. -/
def Family.digest {α : Type} [Add α] [AndOp α] [XorOp α] [Complement α] (F : Family α)
    (message : Bytes) : State α :=
  let padded := F.pad message
  let size := 16 * F.wordSize
  (cut size (padded.length / size) padded).foldl
    (fun s block => F.compress s ((cut F.wordSize 16 block).map F.ofBytes)) F.initial

/-! ## SHA-256 -/

/-- A word of four bytes turned right by `n` bits. -/
def rotr32 (x : UInt32) (n : UInt32) : UInt32 := (x >>> n) ||| (x <<< (32 - n))

/-- The member with words of four bytes. -/
def family32 : Family UInt32 where
  initial := { a := 0x6a09e667, b := 0xbb67ae85, c := 0x3c6ef372, d := 0xa54ff53a
               e := 0x510e527f, f := 0x9b05688c, g := 0x1f83d9ab, h := 0x5be0cd19 }
  constants := [
    0x428a2f98, 0x71374491, 0xb5c0fbcf, 0xe9b5dba5, 0x3956c25b, 0x59f111f1, 0x923f82a4, 0xab1c5ed5,
    0xd807aa98, 0x12835b01, 0x243185be, 0x550c7dc3, 0x72be5d74, 0x80deb1fe, 0x9bdc06a7, 0xc19bf174,
    0xe49b69c1, 0xefbe4786, 0x0fc19dc6, 0x240ca1cc, 0x2de92c6f, 0x4a7484aa, 0x5cb0a9dc, 0x76f988da,
    0x983e5152, 0xa831c66d, 0xb00327c8, 0xbf597fc7, 0xc6e00bf3, 0xd5a79147, 0x06ca6351, 0x14292967,
    0x27b70a85, 0x2e1b2138, 0x4d2c6dfc, 0x53380d13, 0x650a7354, 0x766a0abb, 0x81c2c92e, 0x92722c85,
    0xa2bfe8a1, 0xa81a664b, 0xc24b8b70, 0xc76c51a3, 0xd192e819, 0xd6990624, 0xf40e3585, 0x106aa070,
    0x19a4c116, 0x1e376c08, 0x2748774c, 0x34b0bcb5, 0x391c0cb3, 0x4ed8aa4a, 0x5b9cca4f, 0x682e6ff3,
    0x748f82ee, 0x78a5636f, 0x84c87814, 0x8cc70208, 0x90befffa, 0xa4506ceb, 0xbef9a3f7, 0xc67178f2]
  mixFirst := fun x => rotr32 x 2 ^^^ rotr32 x 13 ^^^ rotr32 x 22
  mixFifth := fun x => rotr32 x 6 ^^^ rotr32 x 11 ^^^ rotr32 x 25
  mixFar := fun x => rotr32 x 7 ^^^ rotr32 x 18 ^^^ (x >>> 3)
  mixNear := fun x => rotr32 x 17 ^^^ rotr32 x 19 ^^^ (x >>> 10)
  wordSize := 4
  ofBytes := fun l => UInt32.ofNat (bigEndian l)
  toBytes := fun w => toBigEndian 4 w.toNat

/-- The SHA-256 digest of a message. -/
def sha256 (message : Bytes) : Octets 32 :=
  ⟨(family32.digest message).words.flatMap family32.toBytes, by simp [State.words, family32]⟩

/-! ## SHA-512 -/

/-- A word of eight bytes turned right by `n` bits. -/
def rotr64 (x : UInt64) (n : UInt64) : UInt64 := (x >>> n) ||| (x <<< (64 - n))

/-- The member with words of eight bytes. -/
def family64 : Family UInt64 where
  initial := {
    a := 0x6a09e667f3bcc908, b := 0xbb67ae8584caa73b, c := 0x3c6ef372fe94f82b, d := 0xa54ff53a5f1d36f1
    e := 0x510e527fade682d1, f := 0x9b05688c2b3e6c1f, g := 0x1f83d9abfb41bd6b, h := 0x5be0cd19137e2179 }
  constants := [
    0x428a2f98d728ae22, 0x7137449123ef65cd, 0xb5c0fbcfec4d3b2f, 0xe9b5dba58189dbbc,
    0x3956c25bf348b538, 0x59f111f1b605d019, 0x923f82a4af194f9b, 0xab1c5ed5da6d8118,
    0xd807aa98a3030242, 0x12835b0145706fbe, 0x243185be4ee4b28c, 0x550c7dc3d5ffb4e2,
    0x72be5d74f27b896f, 0x80deb1fe3b1696b1, 0x9bdc06a725c71235, 0xc19bf174cf692694,
    0xe49b69c19ef14ad2, 0xefbe4786384f25e3, 0x0fc19dc68b8cd5b5, 0x240ca1cc77ac9c65,
    0x2de92c6f592b0275, 0x4a7484aa6ea6e483, 0x5cb0a9dcbd41fbd4, 0x76f988da831153b5,
    0x983e5152ee66dfab, 0xa831c66d2db43210, 0xb00327c898fb213f, 0xbf597fc7beef0ee4,
    0xc6e00bf33da88fc2, 0xd5a79147930aa725, 0x06ca6351e003826f, 0x142929670a0e6e70,
    0x27b70a8546d22ffc, 0x2e1b21385c26c926, 0x4d2c6dfc5ac42aed, 0x53380d139d95b3df,
    0x650a73548baf63de, 0x766a0abb3c77b2a8, 0x81c2c92e47edaee6, 0x92722c851482353b,
    0xa2bfe8a14cf10364, 0xa81a664bbc423001, 0xc24b8b70d0f89791, 0xc76c51a30654be30,
    0xd192e819d6ef5218, 0xd69906245565a910, 0xf40e35855771202a, 0x106aa07032bbd1b8,
    0x19a4c116b8d2d0c8, 0x1e376c085141ab53, 0x2748774cdf8eeb99, 0x34b0bcb5e19b48a8,
    0x391c0cb3c5c95a63, 0x4ed8aa4ae3418acb, 0x5b9cca4f7763e373, 0x682e6ff3d6b2b8a3,
    0x748f82ee5defb2fc, 0x78a5636f43172f60, 0x84c87814a1f0ab72, 0x8cc702081a6439ec,
    0x90befffa23631e28, 0xa4506cebde82bde9, 0xbef9a3f7b2c67915, 0xc67178f2e372532b,
    0xca273eceea26619c, 0xd186b8c721c0c207, 0xeada7dd6cde0eb1e, 0xf57d4f7fee6ed178,
    0x06f067aa72176fba, 0x0a637dc5a2c898a6, 0x113f9804bef90dae, 0x1b710b35131c471b,
    0x28db77f523047d84, 0x32caab7b40c72493, 0x3c9ebe0a15c9bebc, 0x431d67c49c100d4c,
    0x4cc5d4becb3e42b6, 0x597f299cfc657e2a, 0x5fcb6fab3ad6faec, 0x6c44198c4a475817]
  mixFirst := fun x => rotr64 x 28 ^^^ rotr64 x 34 ^^^ rotr64 x 39
  mixFifth := fun x => rotr64 x 14 ^^^ rotr64 x 18 ^^^ rotr64 x 41
  mixFar := fun x => rotr64 x 1 ^^^ rotr64 x 8 ^^^ (x >>> 7)
  mixNear := fun x => rotr64 x 19 ^^^ rotr64 x 61 ^^^ (x >>> 6)
  wordSize := 8
  ofBytes := fun l => UInt64.ofNat (bigEndian l)
  toBytes := fun w => toBigEndian 8 w.toNat

/-- The SHA-512 digest of a message. -/
def sha512 (message : Bytes) : Octets 64 :=
  ⟨(family64.digest message).words.flatMap family64.toBytes, by simp [State.words, family64]⟩

end Sha2

end ModelProtection
