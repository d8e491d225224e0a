/-
Keystores.

A keystore is a file with an identity key, kept as the seed from which the key
is made, and the certificate that goes with it. A keystore that is loaded has a
certificate that is signed by the key it names, and that names the key of the
seed.
-/
import ModelProtection.Certificate
import ModelProtection.Host.FileTree

set_option autoImplicit false

namespace ModelProtection

/-- An identity key with its certificate. -/
structure Keystore where
  /-- The name of the identity. -/
  name : String
  /-- The seed of the key. -/
  seed : Octets 32
  /-- The written certificate. -/
  certificate : String
deriving DecidableEq

namespace Keystore

/-- The name of the only algorithm. -/
def algorithm : String := "ed25519"

/-- The form that reports show, without the seed. -/
def shown (k : Keystore) : String :=
  "SoftwareKeystore \x7b name: " ++ Quoted.text k.name ++ ", seed: \"<redacted>\" \x7d"

/-- A keystore for a seed, with a certificate that is valid from now for some days. -/
def ofSeed (seed : Octets 32) (name : String) (days : Int) (now : Instant) :
    Except Certificate.IssueError Keystore :=
  (Certificate.issue seed name days now).map fun c => ⟨name, seed, c.write⟩

/-! ## Writing -/

/-- The tree of a keystore. -/
def toJson (k : Keystore) : Json :=
  .object [("name", .text k.name), ("algorithm", .text algorithm),
    ("seed", .text (Hex.encode k.seed.toList)), ("certificate", .text k.certificate)]

/-- The content of the file of a keystore. -/
def toBytes (k : Keystore) : Bytes := Utf8.encode k.toJson.pretty

/-! ## Reading -/

/-- Why a file is not a keystore that can be used. -/
inductive Error where
  /-- The file cannot be read. -/
  | unreadable (path : Path) (error : FileError)
  /-- The file is not written as a keystore. -/
  | malformed (path : Path) (error : Json.Error)
  /-- The algorithm is another one. -/
  | algorithm (name : String)
  /-- The seed is not written in 64 digits. -/
  | seed (error : Hex.Error)
  /-- The certificate does not hold. -/
  | certificate (error : Certificate.Error)
  /-- The certificate names another key. -/
  | mismatch
deriving DecidableEq

/-- The wording of an error. -/
def Error.message : Error → String
  | .unreadable path error => "cannot read " ++ path.shown ++ ": " ++ error.message
  | .malformed path error => "malformed keystore " ++ path.shown ++ ": " ++ error.message
  | .algorithm name => "unsupported keystore algorithm " ++ Quoted.text name
  | .seed error => "keystore seed: " ++ error.message
  | .certificate error => error.message
  | .mismatch => "keystore certificate does not match the stored key"

/-- What the file of a keystore says. -/
structure Entries where
  /-- The name. -/
  name : String
  /-- The algorithm. -/
  algorithm : String
  /-- The digits of the seed. -/
  seed : String
  /-- The written certificate. -/
  certificate : String

/-- The entries of a keystore some of which have been read. -/
structure Draft where
  /-- The name. -/
  name : Option String := none
  /-- The algorithm. -/
  algorithm : Option String := none
  /-- The digits of the seed. -/
  seed : Option String := none
  /-- The written certificate. -/
  certificate : Option String := none

/-- How the entries of a keystore are read. -/
def record : Json.Record Draft Entries where
  name := "struct KeystoreFile"
  fields := [
    .of "name" Json.readText (·.name) fun v s => { s with name := some v },
    .of "algorithm" Json.readText (·.algorithm) fun v s => { s with algorithm := some v },
    .of "seed" Json.readText (·.seed) fun v s => { s with seed := some v },
    .of "certificate" Json.readText (·.certificate) fun v s => { s with certificate := some v }]
  empty := {}
  finish := fun s => return {
    name := ← s.name, algorithm := ← s.algorithm
    seed := ← s.seed, certificate := ← s.certificate }

/-- The keystore with the entries of a file, if they go together. -/
def ofEntries (e : Entries) : Except Error Keystore := do
  if e.algorithm ≠ algorithm then throw (.algorithm e.algorithm)
  let seed ← (Hex.decodeSized 32 (textBytes e.seed)).mapError .seed
  let certificate ← (Certificate.parse e.certificate).mapError .certificate
  certificate.checkSignature.mapError .certificate
  if certificate.binds (Ed25519.publicKey seed) then return ⟨e.name, seed, e.certificate⟩
  else throw .mismatch

/-- The keystore that stands in the file at a path, from what came of reading the file. -/
def load (path : Path) (content : Except FileError Bytes) : Except Error Keystore := do
  let bytes ← content.mapError (.unreadable path)
  let entries ← (Json.readAll record.read bytes).mapError (.malformed path)
  ofEntries entries

end Keystore

end ModelProtection
