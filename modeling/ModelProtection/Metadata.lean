/-
Bounded text, and the description of a model.

Every text that goes into a document has a greatest length in bytes. A text that
is given must be there and within its bound; a text that the library makes up is
cut at the last character that fits.
-/
import ModelProtection.Json.Record
import ModelProtection.Json.Tree

set_option autoImplicit false

namespace ModelProtection

/-- The number of bytes in a text. -/
def byteLength (s : String) : Nat := (textBytes s).length

/-! ## Bounds -/

namespace Bound

/-- The most bytes of a model name, a description or an artifact name. -/
def name : Nat := 256

/-- The most bytes of a model version. -/
def version : Nat := 32

/-- The most bytes of a path. -/
def path : Nat := 256

/-- How a text breaks its bound. -/
inductive Error where
  /-- The text is empty. -/
  | missing (field : String)
  /-- The text has `size` bytes and may have `most`. -/
  | tooLong (field : String) (most size : Nat)
deriving DecidableEq, Repr

/-- The wording of an error. -/
def Error.message : Error → String
  | .missing field => field ++ " is required"
  | .tooLong field most size =>
    field ++ s!" greater than {most} characters not allowed (got {size})"

/-- Checks that a text is there and has at most `most` bytes. -/
def require (field value : String) (most : Nat) : Except Error Unit :=
  let size := byteLength value
  if size = 0 then .error (.missing field)
  else if most < size then .error (.tooLong field most size)
  else .ok ()

/-- A text cut to at most `most` bytes at the last boundary within them. There is none if no boundary
is met, or if the bytes in front of it are no text. -/
def truncate? (value : String) (most : Nat) : Option String :=
  if byteLength value ≤ most then some value
  else do
    let i ← Utf8.lastBoundary? (textBytes value) most
    (Utf8.decode ((textBytes value).take i)).toOption

/-- A text cut to at most `most` bytes at the last boundary within them. -/
-- a name that is cut must not be computed just to compare it with itself
@[irreducible] def truncate (value : String) (most : Nat) : String := (truncate? value most).getD ""

end Bound

/-! ## Metadata -/

/-- What a protected model says about itself. -/
structure Metadata where
  /-- The name of the model. -/
  name : String
  /-- A description in free form. -/
  description : String
  /-- The label of the version. -/
  version : String
deriving DecidableEq, Repr

namespace Metadata

/-- Checks that every field is there and within its bound. -/
def validate (m : Metadata) : Except Bound.Error Unit := do
  Bound.require "model name" m.name Bound.name
  Bound.require "model description" m.description Bound.name
  Bound.require "model version" m.version Bound.version

/-- The tree of a description. -/
def toJson (m : Metadata) : Json :=
  .object [("name", .text m.name), ("description", .text m.description), ("version", .text m.version)]

/-- A description some of whose fields have been read. -/
structure Draft where
  /-- The name. -/
  name : Option String := none
  /-- The description. -/
  description : Option String := none
  /-- The version. -/
  version : Option String := none

/-- How a description is read. -/
def record : Json.Record Draft Metadata where
  name := "struct ModelMetadata"
  fields := [
    .of "name" Json.readText (·.name) fun v s => { s with name := some v },
    .of "description" Json.readText (·.description) fun v s => { s with description := some v },
    .of "version" Json.readText (·.version) fun v s => { s with version := some v }]
  empty := {}
  finish := fun s => return { name := ← s.name, description := ← s.description, version := ← s.version }

/-- Reads a description. -/
def read : Json.Reader Metadata := record.read

end Metadata

end ModelProtection
