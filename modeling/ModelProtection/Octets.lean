/-
Byte strings.

File contents, documents and messages are plain lists of bytes, because every
law about them is an induction on their length. A key, a digest, an identifier
or a signature has a length fixed by its kind, so those carry it in the type:
`Octets n` is a byte string together with the proof that it has `n` bytes, and
no function that takes one has to say what a wrong length would mean.
-/
set_option autoImplicit false

namespace ModelProtection

/-- A byte string of any length. -/
abbrev Bytes := List UInt8

/-- A byte string of exactly `n` bytes. -/
structure Octets (n : Nat) where
  /-- The bytes, first to last. -/
  toList : Bytes
  /-- There are `n` of them. -/
  length_eq : toList.length = n
deriving DecidableEq

namespace Octets

variable {n : Nat}

/-- The bytes as a sized string, if there are exactly `n` of them. -/
def ofList? (n : Nat) (l : Bytes) : Option (Octets n) :=
  if h : l.length = n then some ⟨l, h⟩ else none

/-- The first `n` bytes of `l`, filled up with zero bytes where `l` is shorter. -/
def ofListPadded (n : Nat) (l : Bytes) : Octets n :=
  ⟨l.take n ++ List.replicate (n - l.length) 0, by simp; omega⟩

/-- The string of `n` bytes whose byte at position `i` is `f i`. -/
def ofFn (n : Nat) (f : Nat → UInt8) : Octets n :=
  ⟨(List.range n).map f, by simp⟩

/-- The `len` bytes that start at position `start`. -/
def slice (o : Octets n) (start len : Nat) (h : start + len ≤ n) : Octets len :=
  ⟨(o.toList.drop start).take len, by simp [o.length_eq]; omega⟩

/-- Two strings one after the other. -/
def append {m : Nat} (a : Octets n) (b : Octets m) : Octets (n + m) :=
  ⟨a.toList ++ b.toList, by simp [a.length_eq, b.length_eq]⟩

theorem ext_toList {a b : Octets n} (h : a.toList = b.toList) : a = b := by
  cases a; cases b; cases h; rfl

@[simp] theorem length_toList (o : Octets n) : o.toList.length = n := o.length_eq

theorem ofList?_eq_some_iff {l : Bytes} {o : Octets n} : ofList? n l = some o ↔ o.toList = l := by
  unfold ofList?
  constructor
  · intro h
    split at h
    · cases h; rfl
    · cases h
  · intro h
    subst h
    simp

@[simp] theorem ofList?_toList (o : Octets n) : ofList? n o.toList = some o :=
  ofList?_eq_some_iff.2 rfl

end Octets

/-! ## Machine words -/

/-- The value of a byte string read with its most significant byte first. -/
def bigEndian (l : Bytes) : Nat :=
  l.foldl (fun acc b => acc * 256 + b.toNat) 0

/-- The value of a byte string read with its least significant byte first. -/
def littleEndian : Bytes → Nat
  | [] => 0
  | b :: l => b.toNat + 256 * littleEndian l

/-- The `n` low bytes of `v`, least significant first. -/
def toLittleEndian : Nat → Nat → Bytes
  | 0, _ => []
  | n + 1, v => UInt8.ofNat v :: toLittleEndian n (v / 256)

/-- The `n` low bytes of `v`, most significant first. -/
def toBigEndian (n v : Nat) : Bytes := (toLittleEndian n v).reverse

@[simp] theorem length_toLittleEndian (n v : Nat) : (toLittleEndian n v).length = n := by
  induction n generalizing v with
  | zero => rfl
  | succ n ih => simp [toLittleEndian, ih]

@[simp] theorem length_toBigEndian (n v : Nat) : (toBigEndian n v).length = n := by
  simp [toBigEndian]

end ModelProtection
