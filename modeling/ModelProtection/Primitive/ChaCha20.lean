/-
The ChaCha20 stream cipher.

The state is four rows of four words. A quarter round works on one word of each
row, and the four columns do not touch each other, so a column round is one
quarter round on whole rows. Turning the rows by zero, one, two and three places
brings the diagonals into the columns; a double round is a column round, the
turn, another column round, and the turn back.
-/
import ModelProtection.Octets

set_option autoImplicit false

namespace ModelProtection

namespace ChaCha20

/-- Four words of the state. -/
structure Row where
  /-- The word in the first column. -/
  w0 : UInt32
  /-- The word in the second column. -/
  w1 : UInt32
  /-- The word in the third column. -/
  w2 : UInt32
  /-- The word in the fourth column. -/
  w3 : UInt32

namespace Row

/-- A function on words, column by column. -/
def zipWith (f : UInt32 → UInt32 → UInt32) (r s : Row) : Row :=
  ⟨f r.w0 s.w0, f r.w1 s.w1, f r.w2 s.w2, f r.w3 s.w3⟩

/-- A word turned left by `n` bits. -/
def rotl (n x : UInt32) : UInt32 := (x <<< n) ||| (x >>> (32 - n))

/-- Every word turned left by `n` bits. -/
def rotlAll (n : UInt32) (r : Row) : Row := ⟨rotl n r.w0, rotl n r.w1, rotl n r.w2, rotl n r.w3⟩

/-- The row with each word one column to the left. -/
def turn (r : Row) : Row := ⟨r.w1, r.w2, r.w3, r.w0⟩

/-- The words from the first column to the last. -/
def words (r : Row) : List UInt32 := [r.w0, r.w1, r.w2, r.w3]

end Row

/-- The four rows of the state. -/
structure State where
  /-- The first row. -/
  a : Row
  /-- The second row. -/
  b : Row
  /-- The third row. -/
  c : Row
  /-- The fourth row. -/
  d : Row

namespace State

/-- A quarter round in every column. -/
def columnRound (s : State) : State :=
  let a := s.a.zipWith (· + ·) s.b
  let d := (s.d.zipWith (· ^^^ ·) a).rotlAll 16
  let c := s.c.zipWith (· + ·) d
  let b := (s.b.zipWith (· ^^^ ·) c).rotlAll 12
  let a := a.zipWith (· + ·) b
  let d := (d.zipWith (· ^^^ ·) a).rotlAll 8
  let c := c.zipWith (· + ·) d
  let b := (b.zipWith (· ^^^ ·) c).rotlAll 7
  ⟨a, b, c, d⟩

/-- The state with its diagonals in the columns. -/
def diagonal (s : State) : State := ⟨s.a, s.b.turn, s.c.turn.turn, s.d.turn.turn.turn⟩

/-- The state with its columns back on the diagonals. -/
def undiagonal (s : State) : State := ⟨s.a, s.b.turn.turn.turn, s.c.turn.turn, s.d.turn⟩

/-- A round over the columns and one over the diagonals. -/
def doubleRound (s : State) : State := s.columnRound.diagonal.columnRound.undiagonal

/-- Word by word sum. -/
def add (s t : State) : State :=
  ⟨s.a.zipWith (· + ·) t.a, s.b.zipWith (· + ·) t.b, s.c.zipWith (· + ·) t.c,
    s.d.zipWith (· + ·) t.d⟩

/-- The bytes of the state, each word with its low byte first. -/
def toBytes (s : State) : Bytes :=
  (s.a.words ++ s.b.words ++ s.c.words ++ s.d.words).flatMap fun w => toLittleEndian 4 w.toNat

end State

/-- The word of four bytes at position `i`, low byte first. -/
def wordAt (l : Bytes) (i : Nat) : UInt32 := UInt32.ofNat (littleEndian ((l.drop (4 * i)).take 4))

/-- The state before the rounds: a constant, the key, the block counter and the nonce. -/
def start (key : Octets 32) (counter : Nat) (nonce : Octets 12) : State :=
  let k := wordAt key.toList
  let n := wordAt nonce.toList
  { a := ⟨0x61707865, 0x3320646e, 0x79622d32, 0x6b206574⟩
    b := ⟨k 0, k 1, k 2, k 3⟩
    c := ⟨k 4, k 5, k 6, k 7⟩
    d := ⟨UInt32.ofNat counter, n 0, n 1, n 2⟩ }

/-- The number of bytes in a block of the key stream. -/
def blockSize : Nat := 64

/-- One block of the key stream: ten double rounds, and the starting state added at the end. -/
def block (key : Octets 32) (nonce : Octets 12) (counter : Nat) : Bytes :=
  let s := start key counter nonce
  (((List.range 10).foldl (fun t _ => t.doubleRound) s).add s).toBytes

@[simp] theorem length_block (key : Octets 32) (nonce : Octets 12) (counter : Nat) :
    (block key nonce counter).length = blockSize := by
  simp [block, State.toBytes, Row.words, blockSize]

/-- `count` blocks of the key stream, the first with the given counter. -/
def stream (key : Octets 32) (nonce : Octets 12) (counter count : Nat) : Bytes :=
  (List.range count).flatMap fun i => block key nonce (counter + i)

@[simp] theorem length_stream (key : Octets 32) (nonce : Octets 12) (counter count : Nat) :
    (stream key nonce counter count).length = blockSize * count := by
  induction count with
  | zero => rfl
  | succ count ih =>
    simp only [stream] at ih
    simp [stream, List.range_succ, ih, Nat.mul_succ]

/-- The message combined with the key stream that starts at `counter`. Doing it twice gives the
message back. -/
def apply (key : Octets 32) (nonce : Octets 12) (counter : Nat) (message : Bytes) : Bytes :=
  message.zipWith (· ^^^ ·)
    (stream key nonce counter ((message.length + (blockSize - 1)) / blockSize))

@[simp] theorem length_apply (key : Octets 32) (nonce : Octets 12) (counter : Nat) (message : Bytes) :
    (apply key nonce counter message).length = message.length := by
  simp only [apply, List.length_zipWith, length_stream, blockSize]
  omega

end ChaCha20

end ModelProtection
