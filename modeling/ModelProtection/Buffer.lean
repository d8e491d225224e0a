/-
Buffers of fixed capacity.

A document is written into a buffer whose capacity was computed beforehand. A
buffer takes a piece whole or refuses it, and never grows, so that a capacity
that was computed too small shows as an error. What a buffer holds is kept as
the list of pieces it took, latest first; `content` is the bytes in order.

A document is written piece by piece up to the first error (`writeAll`). A caller
who goes on after an error keeps the buffer, and offers bytes once (`offer`) or
until all of them are taken (`offerAll`).
-/
import ModelProtection.Octets

set_option autoImplicit false

namespace ModelProtection

/-- A buffer that never holds more than its capacity. -/
structure Buffer where
  /-- The number of bytes it may hold. -/
  capacity : Nat
  /-- The pieces it took, latest first. -/
  taken : List Bytes
  /-- The number of bytes it holds. -/
  size : Nat
  /-- The size is that of the pieces. -/
  size_eq : size = taken.reverse.flatten.length
  /-- The pieces fit. -/
  size_le : size ≤ capacity

namespace Buffer

/-- The most bytes that can be reserved. -/
def mostCapacity : Nat := Nat.pow 2 63 - 1

/-- A capacity that cannot be reserved. -/
structure ReserveError where
  /-- The capacity that was asked for. -/
  capacity : Nat
deriving DecidableEq, Repr

/-- The wording of an error. -/
def ReserveError.message (e : ReserveError) : String :=
  s!"cannot reserve {e.capacity} bytes: memory allocation failed because the computed capacity"
    ++ " exceeded the collection's maximum"

/-- A piece that does not fit any more. -/
structure WriteError where
  /-- The capacity of the buffer. -/
  capacity : Nat
deriving DecidableEq, Repr

/-- The wording of an error. -/
def WriteError.message (e : WriteError) : String :=
  s!"output exceeds reserved capacity of {e.capacity} bytes"

/-- An empty buffer. -/
def reserve (capacity : Nat) : Except ReserveError Buffer :=
  if capacity ≤ mostCapacity then .ok ⟨capacity, [], 0, rfl, Nat.zero_le _⟩
  else .error ⟨capacity⟩

/-- The bytes of a buffer. -/
def content (b : Buffer) : Bytes := b.taken.reverse.flatten

/-- The number of bytes that still fit. -/
def remaining (b : Buffer) : Nat := b.capacity - b.size

/-- Whether nothing has been written. -/
def isEmpty (b : Buffer) : Bool := b.size == 0

/-- The buffer with a piece at its end, if the piece fits. -/
def write (b : Buffer) (piece : Bytes) : Except WriteError Buffer :=
  if h : piece.length ≤ b.remaining then
    .ok {
      capacity := b.capacity
      taken := piece :: b.taken
      size := b.size + piece.length
      size_eq := by have := b.size_eq; simp_all
      size_le := by have := b.size_le; simp only [remaining] at h; omega }
  else .error ⟨b.capacity⟩

/-- The buffer with several pieces at its end, if all of them fit. -/
def writeAll (b : Buffer) : List Bytes → Except WriteError Buffer
  | [] => .ok b
  | piece :: pieces =>
    match b.write piece with
    | .ok b => b.writeAll pieces
    | .error e => .error e

@[simp] theorem length_content (b : Buffer) : b.content.length = b.size := b.size_eq.symm

theorem size_add_remaining (b : Buffer) : b.size + b.remaining = b.capacity :=
  Nat.add_sub_cancel' b.size_le

theorem content_of_write {b b' : Buffer} {piece : Bytes} (h : b.write piece = .ok b') :
    b'.content = b.content ++ piece := by
  unfold write at h
  split at h
  · cases h; simp [content]
  · cases h

/-! ## Calls -/

/-- Why a call fails. In both cases not one byte more is taken. -/
inductive WriteFault where
  /-- The bytes do not fit. -/
  | full (error : WriteError)
  /-- There are bytes left, and none of them was taken. -/
  | stalled
deriving DecidableEq, Repr

/-- The wording of a fault. -/
def WriteFault.message : WriteFault → String
  | full error => error.message
  | stalled => "failed to write whole buffer"

/-- Bytes are offered once. The caller hears how many of them were taken, and keeps the buffer. -/
def offer (b : Buffer) (data : Bytes) : Except WriteFault Nat × Buffer :=
  match b.write data with
  | .ok b' => (.ok data.length, b')
  | .error e => (.error (.full e), b)

/-- What is left of the bytes is offered until nothing is left; no bytes are never offered. -/
def offerAll (b : Buffer) (data : Bytes) : Except WriteFault Unit × Buffer :=
  if data = [] then (.ok (), b)
  else
    match b.offer data with
    -- a fault of a buffer is never an interruption, after which the bytes would be offered again
    | (.error fault, b') => (.error fault, b')
    -- the same bytes would be left for ever
    | (.ok 0, b') => (.error .stalled, b')
    | (.ok (count + 1), b') => b'.offerAll (data.drop (count + 1))
termination_by data.length
decreasing_by
  have := List.length_pos_iff.2 ‹¬data = []›
  rw [List.length_drop]
  omega

/-- A call that gives bytes to a buffer. -/
inductive Call where
  /-- The bytes are offered once. -/
  | offer (data : Bytes)
  /-- The bytes are offered until none is left. -/
  | offerAll (data : Bytes)
deriving DecidableEq, Repr

/-- What a caller hears when a call succeeds. -/
inductive Receipt where
  /-- So many bytes were taken. -/
  | taken (count : Nat)
  /-- Nothing is left. -/
  | done
deriving DecidableEq, Repr

namespace Call

/-- The bytes of a call. -/
def data : Call → Bytes
  | offer data => data
  | offerAll data => data

/-- A call: what the caller hears, and the buffer as the call leaves it. -/
def run : Call → Buffer → Except WriteFault Receipt × Buffer
  | offer data, b =>
    let (answer, b') := b.offer data
    (answer.map .taken, b')
  | offerAll data, b =>
    let (answer, b') := b.offerAll data
    (answer.map fun _ => .done, b')

end Call

end Buffer

end ModelProtection
