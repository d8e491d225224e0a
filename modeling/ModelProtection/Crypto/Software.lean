/-
The service in software.

The state of this service is a table of slots. Files, random bytes and the time
come from the host. Salts and keys are drawn before the table is asked whether
it has room, so a call that fails for want of a slot has drawn all the same.
-/
import ModelProtection.Crypto.Service
import ModelProtection.Crypto.SlotTable
import ModelProtection.Keystore.Store

set_option autoImplicit false

namespace ModelProtection

/-- Computations on a host that keep a table of slots. -/
abbrev SoftwareT (m : Type → Type) := StateT SlotTable m

namespace Software

variable {m : Type → Type} [Monad m] {α : Type}

/-- Runs an operation on the table, in place. -/
def run (operation : SlotM α) : SoftwareT m (Except CryptoError α) := fun t =>
  match operation t with
  | .ok (a, t) => pure (.ok a, t)
  | .error f => pure (.error f.error, f.table)

variable [Host m]

/-- Loads the identity key of a keystore, if there is a free slot for it. -/
def loadIdentity (keystore : Path) : SoftwareT m (Except CryptoError SlotId) := do
  match ← run (SlotTable.requireFree 1) with
  | .error e => return .error e
  | .ok () =>
    match ← Keystore.loadAt keystore with
    | .error e => return .error e
    | .ok k => run (SlotTable.insert (.identity k.seed k.certificate))

/-- Makes a content key. -/
def generateContentKey (size : Nat) : SoftwareT m (Except CryptoError SlotId) := do
  if size ≠ contentKeySize then return .error (.failed .keyGeneration (.keySize size))
  let key ← Host.randomBytes 32
  run (SlotTable.insert (.content key))

/-- Checks a certificate, at the present time if its lifetime matters. -/
def verifyCertificate (slot : SlotId) (isPeer : Bool) (certificate : String)
    (checkLifetime : Bool) : SoftwareT m (Except CryptoError Unit) := do
  if checkLifetime then
    let now ← Host.now
    run (SlotTable.verifyCertificate slot isPeer certificate (some now))
  else run (SlotTable.verifyCertificate slot isPeer certificate none)

/-- Encrypts with a fresh salt. -/
def encrypt (slot : SlotId) (message : Bytes) :
    SoftwareT m (Except CryptoError (String × SlotId)) := do
  let salt ← Host.randomBytes DerivedKeys.saltSize
  run (SlotTable.encrypt salt slot message)

/-- Wraps a key with a fresh salt. -/
def wrapKey (identitySlot contentSlot : SlotId) :
    SoftwareT m (Except CryptoError (String × SlotId)) := do
  let salt ← Host.randomBytes DerivedKeys.saltSize
  run (SlotTable.wrapKey salt identitySlot contentSlot)

/-- Makes a GUID of fresh random bytes. -/
def generateGuid : SoftwareT m (Except CryptoError Guid) := do
  let draw ← Host.randomBytes 16
  return .ok (Guid.ofRandom draw)

end Software

instance {m : Type → Type} [Monad m] [Host m] : CryptoService (SoftwareT m) where
  initialise := do modify SlotTable.initialise; return .ok ()
  shutDown := modify SlotTable.shutDown
  loadIdentity := Software.loadIdentity
  generateContentKey := Software.generateContentKey
  clearSlot slot := modify fun t => t.clear slot
  certificate slot := Software.run do return (← SlotTable.identity slot).2
  verifyCertificate := Software.verifyCertificate
  encrypt := Software.encrypt
  hash bytes := return .ok ⟨Sha2.sha256 bytes⟩
  sign slot document := Software.run (SlotTable.sign slot document)
  wrapKey := Software.wrapKey
  authenticate slot document := Software.run (SlotTable.authenticate slot document)
  generateGuid := Software.generateGuid

end ModelProtection
