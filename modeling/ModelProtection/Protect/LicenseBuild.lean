/-
Building the master license.

The content key is wrapped under the identity key, and the license that carries
it is authenticated under the keys that the wrapping derived. The lease of the
content key is given to this build. Both it and the lease of the derived keys
end before the file is written, and in every build that fails.

The time is read once, when the key has been wrapped, and not at all if that
fails or something that was given is wrong.
-/
import ModelProtection.Protect.Context
import ModelProtection.Protect.Document
import ModelProtection.Protect.Workflow

set_option autoImplicit false

namespace ModelProtection

namespace LicenseBuild

variable {m : Type → Type} [Monad m] [CryptoService m]

/-- Makes an authenticated license. -/
def authenticated (identity content : KeyLease) (licenseGuid : String)
    (context : ProtectionContext) (clock : m Instant) : WorkflowT m Bytes := do
  let _ ← WorkflowT.check .guid (Guid.parse licenseGuid)
  let (modelGuid, modelHash) ← WorkflowT.compute context.require
  let (wrappedKey, derived) ← WorkflowT.call (identity.wrapKey content)
  derived.during do
    let created ← ExceptT.lift clock
    let document : LicenseDocument := {
      creationDate := created.line
      modelHash, licenseGuid, modelGuid, wrappedKey
      certificate := context.certificate }
    let bytes ← WorkflowT.compute document.toBytes
    let slot ← WorkflowT.call (pure derived.id)
    WorkflowT.call (CryptoService.authenticate slot bytes)

variable [Host m]

/-- Builds a license with the time that a clock shows and writes it. The result is the authenticated
license. -/
def runWith (output : Path) (identity content : KeyLease) (licenseGuid : String)
    (context : ProtectionContext) (clock : m Instant) : WorkflowT m Bytes := do
  let bytes ← content.during (authenticated identity content licenseGuid context clock)
  WorkflowT.writeOutput output bytes
  return bytes

/-- Builds a license with the present time and writes it. -/
def run (output : Path) (identity content : KeyLease) (licenseGuid : String)
    (context : ProtectionContext) : WorkflowT m Bytes :=
  runWith output identity content licenseGuid context Host.now

/-- Builds a license with a given time and writes it. -/
def runAt (output : Path) (identity content : KeyLease) (licenseGuid : String)
    (context : ProtectionContext) (created : Instant) : WorkflowT m Bytes :=
  runWith output identity content licenseGuid context (pure created)

end LicenseBuild

end ModelProtection
