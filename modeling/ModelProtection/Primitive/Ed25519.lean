/-
Ed25519 signatures.

The curve is `-x² + y² = 1 + d x² y²` over the integers modulo `2^255 - 19`.
Points are kept in extended coordinates `(X : Y : Z : T)` with `x = X/Z`,
`y = Y/Z` and `x y = T/Z`, for which one addition law holds at every pair of
points. A point is written as its `y` with the parity of `x` in the top bit.

Verification is the strict one: a signature scalar that is not reduced, and a
key or a commitment of small order, are refused, so no signature verifies under
a key that vouches for nothing.
-/
import ModelProtection.Primitive.Sha2

set_option autoImplicit false

namespace ModelProtection

namespace Ed25519

open Sha2

/-! ## The field -/

/-- The modulus of the field. -/
def prime : Nat := Nat.pow 2 255 - 19

/-- The order of the base point. -/
def order : Nat := Nat.pow 2 252 + 27742317777372353535851937790883648493

/-- `base ^ exponent` modulo `m`, by squaring. `bits` bounds the length of the exponent. -/
def powMod (m : Nat) : Nat → Nat → Nat → Nat
  | 0, _, _ => 1 % m
  | bits + 1, base, exponent =>
    let half := powMod m bits (base * base % m) (exponent / 2)
    if exponent % 2 = 1 then half * base % m else half

/-- A power in the field. -/
def fieldPow (x e : Nat) : Nat := powMod prime 256 x e

/-- The inverse of a field element; zero is sent to zero. -/
def fieldInv (x : Nat) : Nat := fieldPow x (prime - 2)

/-- A difference in the field. -/
def fieldSub (x y : Nat) : Nat := (x + (prime - y % prime)) % prime

/-- The curve constant. -/
def d : Nat := 37095705934669439343138083508754565189542113879843219016388785533085940283555

/-- A square root of minus one. -/
def rootOfMinusOne : Nat :=
  19681161376707505956807079304988542015446066515923890162744021073123829784752

/-! ## The group -/

/-- A point in extended coordinates. -/
structure Point where
  /-- The numerator of `x`. -/
  X : Nat
  /-- The numerator of `y`. -/
  Y : Nat
  /-- The common denominator. -/
  Z : Nat
  /-- The numerator of `x y`. -/
  T : Nat

namespace Point

/-- The neutral point. -/
def zero : Point := ⟨0, 1, 1, 0⟩

/-- The point with the given affine coordinates. -/
def ofAffine (x y : Nat) : Point := ⟨x, y, 1, x * y % prime⟩

/-- The generator of the large subgroup. -/
def base : Point :=
  ofAffine 15112221349535400772501151409588531511454012693041857206046113283949847762202
    46316835694926478169428394003475163141307993866256225615783033603165251855960

/-- The sum of two points. -/
def add (p q : Point) : Point :=
  let a := fieldSub p.Y p.X * fieldSub q.Y q.X % prime
  let b := (p.Y + p.X) * (q.Y + q.X) % prime
  let c := p.T * (2 * d) % prime * q.T % prime
  let z := 2 * p.Z * q.Z % prime
  let e := fieldSub b a
  let f := fieldSub z c
  let g := z + c
  let h := b + a
  ⟨e * f % prime, g * h % prime, f * g % prime, e * h % prime⟩

/-- The negative of a point. -/
def neg (p : Point) : Point := ⟨fieldSub 0 p.X, p.Y, p.Z, fieldSub 0 p.T⟩

/-- The point added to itself `n` times, by doubling. `bits` bounds the length of `n`. -/
def scale : Nat → Nat → Point → Point
  | 0, _, _ => zero
  | bits + 1, n, p =>
    let half := scale bits (n / 2) (p.add p)
    if n % 2 = 1 then half.add p else half

/-- A multiple of a point by a number of at most 256 bits. -/
def mul (n : Nat) (p : Point) : Point := scale 256 n p

/-- Whether the point is the neutral one. -/
def isZero (p : Point) : Bool := p.X % prime == 0 && fieldSub p.Y p.Z == 0

/-- Whether the order of the point divides the cofactor eight. -/
def isSmallOrder (p : Point) : Bool :=
  let q := p.add p
  let r := q.add q
  (r.add r).isZero

/-- The written form: `y` with the parity of `x` in the top bit. -/
def compress (p : Point) : Octets 32 :=
  let inverse := fieldInv p.Z
  let x := p.X * inverse % prime
  let y := p.Y * inverse % prime
  ⟨toLittleEndian 32 (y + Nat.pow 2 255 * (x % 2)), by simp⟩

/-- The point with a written form, if there is one. The `x` of least exponent is tried and turned by
a root of minus one where its square has the wrong sign. -/
def decompress? (o : Octets 32) : Option Point :=
  let v := littleEndian o.toList
  let y := v % Nat.pow 2 255 % prime
  let sign := v / Nat.pow 2 255
  let u := fieldSub (y * y) 1
  let w := (d * (y * y % prime) + 1) % prime
  let w3 := w * w % prime * w % prime
  let w7 := w3 * w3 % prime * w % prime
  let r := u * w3 % prime * fieldPow (u * w7 % prime) ((prime - 5) / 8) % prime
  let check := w * (r * r % prime) % prime
  -- `r` is a root of `u / w`, or of its negative, if either has one
  let root :=
    if check = u then some r
    else if check = fieldSub 0 u then some (r * rootOfMinusOne % prime)
    else none
  root.map fun x => ofAffine (if x % 2 = sign then x else fieldSub 0 x) y

end Point

/-! ## Keys and signatures -/

/-- The secret scalar of a seed, and the bytes from which its commitments are drawn. -/
structure Expanded where
  /-- The secret scalar. -/
  scalar : Nat
  /-- The second half of the digest of the seed. -/
  noise : Bytes

/-- The digest of a seed: the first half, with its three low bits cleared and its length fixed, is
the secret scalar. -/
def expand (seed : Octets 32) : Expanded :=
  let digest := (sha512 seed.toList).toList
  let low := littleEndian (digest.take 32)
  { scalar := low % Nat.pow 2 254 / 8 * 8 + Nat.pow 2 254
    noise := digest.drop 32 }

/-- The public key of a seed. -/
def publicKey (seed : Octets 32) : Octets 32 := (Point.base.mul (expand seed).scalar).compress

/-- The number that a digest of several byte strings stands for, modulo the group order. -/
def challenge (message : Bytes) : Nat := littleEndian (sha512 message).toList % order

/-- The signature of a message under the key of a seed. -/
def sign (seed : Octets 32) (message : Bytes) : Octets 64 :=
  let key := expand seed
  let r := challenge (key.noise ++ message)
  let commitment := (Point.base.mul r).compress
  let k := challenge (commitment.toList ++ (publicKey seed).toList ++ message)
  let response : Octets 32 := ⟨toLittleEndian 32 ((r + k * key.scalar) % order), by simp⟩
  commitment.append response

/-- A public key whose written form is known to be that of a point. -/
structure VerifyingKey where
  /-- The written form, which goes into the digests. -/
  bytes : Octets 32
  /-- The point. -/
  point : Point

/-- The key with a written form, if that is the written form of a point. -/
def VerifyingKey.ofBytes? (bytes : Octets 32) : Option VerifyingKey :=
  (Point.decompress? bytes).map fun point => ⟨bytes, point⟩

/-- Whether a signature of a message is good under a key. -/
def VerifyingKey.verify (key : VerifyingKey) (message : Bytes) (signature : Octets 64) : Bool :=
  let commitment := signature.slice 0 32 (by omega)
  let s := littleEndian (signature.slice 32 32 (by omega)).toList
  -- a second answer to the same challenge would differ by the order of the group
  if order ≤ s then false
  else
    match Point.decompress? commitment with
    | none => false
    | some r =>
      -- a point of small order would let one signature hold for several messages
      if r.isSmallOrder || key.point.isSmallOrder then false
      else
        let k := challenge (commitment.toList ++ key.bytes.toList ++ message)
        let expected := ((key.point.neg.mul k).add (Point.base.mul s)).compress
        expected == commitment

end Ed25519

end ModelProtection
