/-
Documents.

Protecting a model makes two documents: the protected model, with the encrypted
files, and the master license, with the wrapped content key. Both are indented
JSON, and both are written into a buffer whose capacity is computed beforehand
from the most that each part can take. A text may take six times its length when
every character is escaped; ciphertexts are never escaped.
-/
import ModelProtection.Error.Protect

set_option autoImplicit false

namespace ModelProtection

/-- An encrypted file. -/
structure Artifact where
  /-- The name of the file. -/
  name : String
  /-- The ciphertext, in Base64. -/
  ciphertext : String
deriving DecidableEq, Repr

/-! ## Sizes -/

/-- The most that a text grows when it is escaped. -/
def escapeFactor : Nat := 6

/-- What the keys, marks and blanks of a model document take. -/
def modelTextSize : Nat := 160

/-- What the keys, marks and blanks of one file take. -/
def artifactTextSize : Nat := 80

/-- What the keys, marks and blanks of a license take. -/
def licenseTextSize : Nat := 160

/-- The most bytes of the date of a license. -/
def mostDate : Nat := 64

/-- What the description of a model can take. -/
def metadataSize : Nat := (2 * Bound.name + Bound.version) * escapeFactor

/-- What the name of a file and the text around it can take. -/
def artifactSize : Nat := artifactTextSize + Bound.name * escapeFactor

/-- The capacity for a model document: fixed text, metadata and GUID, the certificate, `count` files
and their ciphertexts of `total` bytes. -/
def modelCapacity (certificateLength count total : Nat) : Except ProtectError Nat :=
  let size? := do
    let certificate ← Size.mul? certificateLength escapeFactor
    let start ← Size.add? certificate (modelTextSize + metadataSize + Guid.textLength)
    let files ← Size.mul? artifactSize count
    let size ← Size.add? start files
    Size.add? size total
  match size? with
  | some size => .ok size
  | none => .error (.allocation .modelSize)

/-- What the parts of a license other than the certificate can take. -/
def licenseFixedSize : Nat :=
  licenseTextSize + mostDate * escapeFactor + ModelHash.textLength + 2 * Guid.textLength
    + mostWrappedKey * escapeFactor

/-- The capacity for a license. -/
def licenseCapacity (certificateLength : Nat) : Except ProtectError Nat :=
  let size? := do
    let certificate ← Size.mul? certificateLength escapeFactor
    Size.add? certificate licenseFixedSize
  match size? with
  | some size => .ok size
  | none => .error (.allocation .licenseSize)

/-! ## Bounded writing -/

/-- The indented text of a tree, written piece by piece into a buffer of a capacity. -/
def Json.writeBounded (j : Json) (capacity : Nat) (fault : Buffer.WriteError → SerializationFault) :
    Except ProtectError Bytes :=
  match Buffer.reserve capacity with
  | .error e => .error (.allocation (.reserve e))
  | .ok buffer =>
    match buffer.writeAll ((j.pieces 0).map Utf8.encode) with
    | .error e => .error (.serialization (fault e))
    | .ok buffer => .ok buffer.content

/-! ## The protected model -/

/-- A protected model that has not been signed. -/
structure ModelDocument where
  /-- What the model says about itself. -/
  metadata : Metadata
  /-- The GUID of the model. -/
  guid : Guid
  /-- The certificate of the identity that signs. -/
  certificate : String
  /-- The encrypted files. -/
  artifacts : List Artifact
deriving DecidableEq

namespace ModelDocument

/-- The number of indices after which they start over. -/
def indexModulus : Nat := 100

/-- The tree of a file. Its keys carry the last digits of its position. -/
def artifactJson (position : Nat) (a : Artifact) : Json :=
  let index := toString (position % indexModulus)
  .object [("file_name_" ++ index, .text a.name), ("file_body_" ++ index, .text a.ciphertext)]

/-- The tree of a model document. -/
def toJson (d : ModelDocument) : Json :=
  .object [("name", .text d.metadata.name), ("description", .text d.metadata.description),
    ("version", .text d.metadata.version), ("model_guid", .text d.guid.canonical),
    ("isv_certificate", .text d.certificate),
    ("files", .list (d.artifacts.zipIdx.map fun (a, position) => artifactJson position a))]

/-- The bytes of a model document, if they fit a buffer. -/
def toBytes (d : ModelDocument) (capacity : Nat) : Except ProtectError Bytes :=
  d.toJson.writeBounded capacity .model

end ModelDocument

/-! ## The master license -/

/-- A master license that has not been authenticated. -/
structure LicenseDocument where
  /-- The date of the license. -/
  creationDate : String
  /-- The digest of the model document. -/
  modelHash : ModelHash
  /-- The GUID of the license, as it was given. -/
  licenseGuid : String
  /-- The GUID of the model. -/
  modelGuid : Guid
  /-- The wrapped content key. -/
  wrappedKey : String
  /-- The certificate of the identity whose key wraps. -/
  certificate : String
deriving DecidableEq

namespace LicenseDocument

/-- The tree of a license. -/
def toJson (d : LicenseDocument) : Json :=
  .object [("creation_date", .text d.creationDate), ("model_hash", .text d.modelHash.hex),
    ("license_guid", .text d.licenseGuid), ("model_guid", .text d.modelGuid.canonical),
    ("encryption_key", .text d.wrappedKey), ("isv_certificate", .text d.certificate)]

/-- Checks the lengths of the parts that come from outside. -/
def validate (d : LicenseDocument) : Except ProtectError Unit :=
  if mostWrappedKey < byteLength d.wrappedKey then
    .error (.parameter (.wrappedKeyTooLong (byteLength d.wrappedKey)))
  else if byteLength d.licenseGuid ≠ Guid.textLength then .error (.parameter .licenseGuidLength)
  else if mostDate < byteLength d.creationDate then .error (.parameter .dateTooLong)
  else .ok ()

/-- The bytes of a license. -/
def toBytes (d : LicenseDocument) : Except ProtectError Bytes := do
  d.validate
  let capacity ← licenseCapacity (byteLength d.certificate)
  d.toJson.writeBounded capacity .license

end LicenseDocument

end ModelProtection
