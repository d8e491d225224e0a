/-
The world outside.

The library asks four things of the system that it runs on: the content of a
file, a file with new content, random bytes and the time. `Host` is any monad
that can answer. `World` is a value that holds the answers: a tree of files, the
stream of random bytes with the number of those that have been drawn, and the
instants that the clock shows, one for each time that it is read. Everything
that the library does can be run on a world, and then it is a function.
-/
import ModelProtection.Host.FileTree
import ModelProtection.Time.Instant

set_option autoImplicit false

namespace ModelProtection

/-- A system that has files, random bytes and a clock. -/
class Host (m : Type → Type) where
  /-- The content of a file. -/
  readFile : Path → m (Except FileError Bytes)
  /-- Makes or replaces a file. -/
  writeFile : Path → Bytes → m (Except FileError Unit)
  /-- Whether something stands at a path. -/
  fileExists : Path → m Bool
  /-- Fresh random bytes. -/
  randomBytes : (n : Nat) → m (Octets n)
  /-- The time. -/
  now : m Instant

/-- A host serves a computation that keeps a state beside it. -/
instance {m : Type → Type} {σ : Type} [Monad m] [Host m] : Host (StateT σ m) where
  readFile p := StateT.lift (Host.readFile p)
  writeFile p content := StateT.lift (Host.writeFile p content)
  fileExists p := StateT.lift (Host.fileExists p)
  randomBytes n := StateT.lift (Host.randomBytes n)
  now := StateT.lift Host.now

/-- Files, random bytes and times. -/
structure World where
  /-- The files. -/
  files : FileTree
  /-- The random bytes, in the order in which they are drawn. -/
  random : Nat → UInt8
  /-- How many random bytes have been drawn. -/
  drawn : Nat := 0
  /-- What the clock shows each time it is read. -/
  clock : Nat → Instant
  /-- How often the clock has been read. -/
  clockReads : Nat := 0

namespace World

/-- The next `n` random bytes. -/
def nextRandom (w : World) (n : Nat) : Octets n := .ofFn n fun i => w.random (w.drawn + i)

/-- The world after a write. A write that cannot open its file changes nothing. -/
def writeFile (w : World) (p : Path) (content : Bytes) : Except FileError Unit × World :=
  match w.files.write p content with
  | .ok files => (.ok (), { w with files })
  | .error e => (.error e, w)

end World

instance : Host (StateM World) where
  readFile p := fun w => (w.files.read p, w)
  writeFile p content := fun w => w.writeFile p content
  fileExists p := fun w => (w.files.has p, w)
  randomBytes n := fun w => (w.nextRandom n, { w with drawn := w.drawn + n })
  now := fun w => (w.clock w.clockReads, { w with clockReads := w.clockReads + 1 })

end ModelProtection
