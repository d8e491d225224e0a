/-
Building the protected model.

The metadata is checked before the service is called at all. The certificate of
the identity must hold, be its own and be valid now. Then the files are
encrypted and the document is made, digested and signed. The file is written
last, when the whole signed document is there, so a build that fails leaves no
half-written file.
-/
import ModelProtection.Protect.Context
import ModelProtection.Protect.Encryption

set_option autoImplicit false

namespace ModelProtection

/-- How a protected model is built. -/
structure ModelBuild where
  /-- Where the signed model is written. -/
  output : Path
  /-- What happens to the last byte of each file. -/
  trailingByte : TrailingByte := .strip
deriving DecidableEq

namespace ModelBuild

variable {m : Type → Type} [Monad m] [CryptoService m] [Host m]

/-- Builds a protected model and writes it, under leased keys. The result is what the license needs
to know, and the signed document. -/
def run (b : ModelBuild) (identity content : KeyLease) (files : List InputFile)
    (metadata : Metadata) : WorkflowT m (ProtectionContext × Bytes) := do
  WorkflowT.check .bound metadata.validate
  let slot ← WorkflowT.call (pure identity.id)
  let certificate ← WorkflowT.call (CryptoService.certificate slot)
  WorkflowT.call (CryptoService.verifyCertificate slot false certificate true)
  let encrypted ← encryptAll content b.trailingByte files
  let guid ← WorkflowT.call CryptoService.generateGuid
  let capacity ← WorkflowT.compute
    (modelCapacity (byteLength certificate) encrypted.artifacts.length encrypted.totalLength)
  let document : ModelDocument :=
    { metadata, guid, certificate, artifacts := encrypted.artifacts }
  let bytes ← WorkflowT.compute (document.toBytes capacity)
  let hash ← WorkflowT.call (CryptoService.hash bytes)
  let signed ← WorkflowT.call (CryptoService.sign slot bytes)
  WorkflowT.writeOutput b.output signed
  return ({ certificate, modelGuid := some guid, modelHash := some hash }, signed)

end ModelBuild

end ModelProtection
