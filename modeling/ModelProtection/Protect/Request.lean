/-
Requests.

A request says which files are protected, as what, under which identity, and
where the two documents go. It can be checked without touching a key or a file.
Paths are measured as they are shown and as they were given; the directory for
outputs is put in front of them afterwards.
-/
import ModelProtection.Error.Protect
import ModelProtection.Protect.Input

set_option autoImplicit false

namespace ModelProtection

/-- What is asked for when a model is protected. -/
structure ProtectRequest where
  /-- The paths of the files, in order. -/
  inputs : List Path
  /-- What the model says about itself. -/
  metadata : Metadata
  /-- The path of the keystore with the identity key. -/
  keystore : Path
  /-- Where the protected model goes. -/
  protectedModel : Path
  /-- Where the master license goes. -/
  masterLicense : Path
  /-- The directory that relative outputs are put into. -/
  outputDirectory : Option Path := none
  /-- The GUID of the license. -/
  licenseGuid : String
  /-- What happens to the last byte of each file. -/
  trailingByte : TrailingByte := .strip
deriving DecidableEq

namespace ProtectRequest

/-- Checks that a path is there and within its bound. -/
def requirePath (field : String) (p : Path) : Except Bound.Error Unit :=
  Bound.require field p.shown Bound.path

/-- Checks everything but the keys and the files. -/
def validate (r : ProtectRequest) : Except ProtectError Unit := do
  if r.inputs.isEmpty then throw (.parameter .noFiles)
  bound (r.inputs.forM (requirePath "model file path"))
  bound r.metadata.validate
  bound (requirePath "keystore path" r.keystore)
  bound (requirePath "protected model path" r.protectedModel)
  bound (requirePath "master license path" r.masterLicense)
  bound (Bound.require "license GUID" r.licenseGuid Guid.textLength)
  match Guid.parse r.licenseGuid with
  | .ok _ => return ()
  | .error e => throw (.parameter (.guid e))
where
  /-- The outcome of a check of a bound. -/
  bound (result : Except Bound.Error Unit) : Except ProtectError Unit :=
    result.mapError fun e => .parameter (.bound e)

/-- The path at which the protected model is written. -/
def protectedModelPath (r : ProtectRequest) : Path := r.protectedModel.underOptional r.outputDirectory

/-- The path at which the master license is written. -/
def masterLicensePath (r : ProtectRequest) : Path := r.masterLicense.underOptional r.outputDirectory

end ProtectRequest

end ModelProtection
