/-
Paths.

A path is any byte string; a slash separates the names in it. It is shown, and
its length is measured, as text in which every malformed part is replaced by a
mark.
-/
import ModelProtection.Text.Line
import ModelProtection.Text.Utf8

set_option autoImplicit false

namespace ModelProtection

/-- A path in a file system. -/
structure Path where
  /-- The bytes of the path. -/
  toBytes : Bytes
deriving DecidableEq

namespace Path

/-- The byte between names, `/`. -/
def slash : UInt8 := 0x2F

/-- The path that a text spells. -/
def ofString (s : String) : Path := ⟨textBytes s⟩

/-- The path as text. -/
def shown (p : Path) : String := Utf8.decodeLossy p.toBytes

instance : ToString Path := ⟨shown⟩

/-- Whether a path starts at the root. -/
def isAbsolute (p : Path) : Bool := p.toBytes.head? == some slash

/-- Whether a path ends with a slash. -/
def endsWithSlash (p : Path) : Bool := p.toBytes.getLast? == some slash

/-- The names in a path, without the empty ones between slashes. -/
def names (p : Path) : List Bytes := (piecesAt slash p.toBytes).filter (!·.isEmpty)

/-- A path as seen from a directory. An absolute path stays what it is. -/
def under (p directory : Path) : Path :=
  if p.isAbsolute then p
  else if directory.toBytes.isEmpty || directory.endsWithSlash then
    ⟨directory.toBytes ++ p.toBytes⟩
  else ⟨directory.toBytes ++ slash :: p.toBytes⟩

/-- A path as seen from a directory that may not be set. -/
def underOptional (p : Path) : Option Path → Path
  | some directory => p.under directory
  | none => p

/-- What follows the last slash in a list of characters. -/
def afterLastSlash (l : List Char) : List Char := (piecesAt '/' l).getLastD []

/-- The last name in a path as text, which is empty if the path ends with a slash. -/
def baseName (p : Path) : String := String.ofList (afterLastSlash p.shown.toList)

end Path

end ModelProtection
