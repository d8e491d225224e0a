/-
The interface of a cryptographic service.

Protecting a model needs thirteen calls, which every service offers. A service
keeps the keys; a caller has only the names of slots. The two calls that derive
keys give the name of the slot that holds them, which the caller must clear.
-/
import ModelProtection.Error.Crypto
import ModelProtection.Guid
import ModelProtection.ModelHash

set_option autoImplicit false

namespace ModelProtection

/-- A monad in which a cryptographic service can be called. -/
class CryptoService (m : Type → Type) where
  /-- Starts the service. -/
  initialise : m (Except CryptoError Unit)
  /-- Stops the service and clears all slots. -/
  shutDown : m Unit
  /-- Loads the identity key of a keystore into a slot. -/
  loadIdentity (keystore : Path) : m (Except CryptoError SlotId)
  /-- Makes a content key of some number of bytes in a slot. -/
  generateContentKey (size : Nat) : m (Except CryptoError SlotId)
  /-- Clears a slot. -/
  clearSlot (slot : SlotId) : m Unit
  /-- The certificate in an identity slot. -/
  certificate (slot : SlotId) : m (Except CryptoError String)
  /-- Checks a certificate, as the one of the key in an identity slot or as a peer's. -/
  verifyCertificate (slot : SlotId) (isPeer : Bool) (certificate : String) (checkLifetime : Bool) :
    m (Except CryptoError Unit)
  /-- Encrypts under the key in a content slot; the derived keys stay in a slot. -/
  encrypt (slot : SlotId) (message : Bytes) : m (Except CryptoError (String × SlotId))
  /-- The digest of some bytes. -/
  hash (bytes : Bytes) : m (Except CryptoError ModelHash)
  /-- Seals a document with a signature by the key in an identity slot. -/
  sign (slot : SlotId) (document : Bytes) : m (Except CryptoError Bytes)
  /-- Wraps the key in a content slot under that in an identity slot; the derived keys stay in a
  slot. -/
  wrapKey (identitySlot contentSlot : SlotId) : m (Except CryptoError (String × SlotId))
  /-- Seals a document with a code under the keys in a derived slot. -/
  authenticate (slot : SlotId) (document : Bytes) : m (Except CryptoError Bytes)
  /-- A fresh GUID. -/
  generateGuid : m (Except CryptoError Guid)

end ModelProtection
