/-
What the license needs to know about the model.

Building the protected model fills a context step by step: first with the
certificate, then with the GUID, then with the digest. The license is built from
a context that has all three.
-/
import ModelProtection.Error.Protect

set_option autoImplicit false

namespace ModelProtection

/-- What is known about a protected model. -/
structure ProtectionContext where
  /-- The certificate of the identity that signs. -/
  certificate : String
  /-- The GUID of the model, once it is made. -/
  modelGuid : Option Guid := none
  /-- The digest of the model document, once it is computed. -/
  modelHash : Option ModelHash := none
deriving DecidableEq

namespace ProtectionContext

/-- The number of bytes in the certificate. -/
def certificateLength (c : ProtectionContext) : Nat := byteLength c.certificate

/-- Whether nothing is missing. -/
def isComplete (c : ProtectionContext) : Bool :=
  c.certificateLength ≠ 0 && c.modelGuid.isSome && c.modelHash.isSome

/-- The GUID and the digest of a context from which nothing is missing. -/
def require (c : ProtectionContext) : Except ProtectError (Guid × ModelHash) := do
  if c.certificateLength = 0 then throw (.parameter .noCertificate)
  let some guid := c.modelGuid | throw (.parameter .noGuid)
  let some hash := c.modelHash | throw (.parameter .noHash)
  return (guid, hash)

/-- The form that reports show of something that may be missing. -/
def optional {α : Type} (shown : α → String) : Option α → String
  | some a => "Some(" ++ shown a ++ ")"
  | none => "None"

/-- The form that reports show, without the certificate. -/
def shown (c : ProtectionContext) : String :=
  "ProtectionContext \x7b certificate_len: " ++ toString c.certificateLength
    ++ ", model_guid: " ++ optional (fun g => "Guid(" ++ g.canonical ++ ")") c.modelGuid
    ++ ", model_hash: " ++ optional ModelHash.abbreviated c.modelHash ++ " \x7d"

end ProtectionContext

end ModelProtection
