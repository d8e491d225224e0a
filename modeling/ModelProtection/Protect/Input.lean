/-
The files of a model.

Files are protected in the order in which they are given. A document records a
file under the last name of its path, cut to the bound of names. Of the content
of a file either every byte is encrypted or, as for a text that ends with a
terminator, every byte but the last.
-/
import ModelProtection.Host.Path
import ModelProtection.Metadata

set_option autoImplicit false

namespace ModelProtection

/-- What happens to the last byte of a file. -/
inductive TrailingByte where
  /-- The last byte is left out; an empty file stays empty. -/
  | strip
  /-- Every byte is kept. -/
  | keep
deriving DecidableEq, Repr, Inhabited

namespace TrailingByte

/-- The form that reports show. -/
def described : TrailingByte → String
  | strip => "Strip"
  | keep => "Keep"

/-- The names of the choices in settings. -/
def choices : List (String × TrailingByte) := [("strip", strip), ("keep", keep)]

/-- Reads a choice. -/
def read : Json.Reader TrailingByte := Json.readChoice choices

/-- How many bytes are taken from a file of `size` bytes. -/
def plaintextLength (policy : TrailingByte) (size : Nat) : Nat :=
  match policy with
  | strip => size - 1
  | keep => size

/-- The bytes that are taken from a file. -/
def plaintext (policy : TrailingByte) (content : Bytes) : Bytes :=
  content.take (policy.plaintextLength content.length)

theorem length_plaintext (policy : TrailingByte) (content : Bytes) :
    (policy.plaintext content).length = policy.plaintextLength content.length := by
  cases policy <;> simp [plaintext, plaintextLength]

end TrailingByte

/-- The name under which a document records the file at a path. -/
def Path.artifactName (p : Path) : String := Bound.truncate p.baseName Bound.name

/-- A file that is to be protected. -/
structure InputFile where
  /-- The path as it was given. -/
  path : Path
  /-- The position among the files, from 0. -/
  position : Nat
deriving DecidableEq

/-- The files at some paths, numbered in their order. -/
def InputFile.ofPaths (paths : List Path) : List InputFile :=
  paths.zipIdx.map fun (path, position) => ⟨path, position⟩

end ModelProtection
