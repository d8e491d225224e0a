/-
The table of key slots.

A table holds the material of its live slots and counts the slots that were ever
filled. Slots are numbered by that count, so that a number is never given twice.
An operation changes its table in place: one that fails says why, with the table
as it was by then, and nothing is taken back. A salt is drawn by whoever calls,
and is an argument here.
-/
import ModelProtection.Crypto.DerivedKeys

set_option autoImplicit false

namespace ModelProtection

/-- What a slot holds. -/
inductive KeyMaterial where
  /-- The seed of an identity key, with its certificate. -/
  | identity (seed : Octets 32) (certificate : String)
  /-- A content key. -/
  | content (key : Octets 32)
  /-- Derived keys. -/
  | derived (keys : DerivedKeys)
deriving DecidableEq

/-- The role of what a slot holds. -/
def KeyMaterial.role : KeyMaterial → KeyRole
  | identity .. => .identity
  | content _ => .content
  | derived _ => .derived

/-- The key slots of a service. -/
structure SlotTable where
  /-- Whether the service has been initialised. -/
  initialised : Bool := false
  /-- How many slots were ever filled. -/
  issued : Nat := 0
  /-- The live slots with what they hold, the latest first. -/
  live : List (SlotId × KeyMaterial) := []
deriving DecidableEq

/-- An operation that failed, with the table as it was by then. -/
structure SlotFailure where
  /-- Why it failed. -/
  error : CryptoError
  /-- The table. -/
  table : SlotTable
deriving DecidableEq

/-- An operation on a table of slots. -/
abbrev SlotM := StateT SlotTable (Except SlotFailure)

namespace SlotTable

/-- Fails, and leaves the table as it is by then. -/
def fail {α : Type} (e : CryptoError) : SlotM α := fun t => .error ⟨e, t⟩

/-- The result of a computation that needs no table. -/
def ofResult {α : Type} : Except CryptoError α → SlotM α
  | .ok a => return a
  | .error e => fail e

/-- The most slots that can be live. -/
def mostLive : Nat := 64

/-- The number of live slots. -/
def liveCount (t : SlotTable) : Nat := t.live.length

/-- The form that reports show. -/
def shown (t : SlotTable) : String :=
  "SoftwareCryptoService \x7b initialized: " ++ toString t.initialised
    ++ ", live_slots: " ++ toString t.liveCount ++ " \x7d"

/-! ## The life of slots -/

/-- The table of a service that has been initialised. -/
def initialise (t : SlotTable) : SlotTable := { t with initialised := true }

/-- The table of a service that has been shut down. The count goes on from where it was. -/
def shutDown (t : SlotTable) : SlotTable := { t with initialised := false, live := [] }

/-- The table without a slot. -/
def clear (t : SlotTable) (slot : SlotId) : SlotTable :=
  { t with live := t.live.filter (·.1 ≠ slot) }

/-- Checks that a number of slots can be filled. -/
def requireFree (needed : Nat) : SlotM Unit := do
  let t ← get
  if !t.initialised then fail (.failed .slotManagement .notInitialised)
  if mostLive < t.liveCount + needed then fail (.slotsExhausted t.liveCount)

/-- Fills a new slot. -/
def insert (material : KeyMaterial) : SlotM SlotId := do
  requireFree 1
  let t ← get
  let slot : SlotId := ⟨t.issued + 1⟩
  set { t with issued := t.issued + 1, live := (slot, material) :: t.live }
  return slot

/-! ## Looking up -/

/-- What a live slot holds. -/
def material? (t : SlotTable) (slot : SlotId) : Option KeyMaterial := t.live.lookup slot

/-- The error for a slot that does not hold a key of the expected role. -/
def wrongSlot (slot : SlotId) (expected : KeyRole) : Option KeyMaterial → CryptoError
  | none => .invalidSlot slot .empty
  | some material => .invalidSlot slot (.wrongRole expected material.role)

/-- The seed and the certificate in an identity slot. -/
def identity (slot : SlotId) : SlotM (Octets 32 × String) := do
  match (← get).material? slot with
  | some (.identity seed certificate) => return (seed, certificate)
  | other => fail (wrongSlot slot .identity other)

/-- The key in a content slot. -/
def content (slot : SlotId) : SlotM (Octets 32) := do
  match (← get).material? slot with
  | some (.content key) => return key
  | other => fail (wrongSlot slot .content other)

/-- The keys in a derived slot. -/
def derived (slot : SlotId) : SlotM DerivedKeys := do
  match (← get).material? slot with
  | some (.derived keys) => return keys
  | other => fail (wrongSlot slot .derived other)

/-! ## Operations -/

/-- The result of a step that is part of an operation. -/
def step {α : Type} (operation : CryptoOperation) : Except CryptoFailure α → SlotM α
  | .ok a => return a
  | .error cause => fail (.failed operation cause)

/-- Checks of a certificate that need no table: that it can be read, that its signature holds, and,
if an instant is given, that it is valid then. -/
def vouch (certificate : String) (instant : Option Instant) : Except CryptoError Certificate :=
  let checked := do
    let c ← Certificate.parse certificate
    c.checkSignature
    match instant with
    | some t => c.checkLifetime t
    | none => pure ()
    return c
  checked.mapError CryptoError.ofCertificate

/-- Checks a certificate. Unless it is a peer's, it must name the key of the identity slot. -/
def verifyCertificate (slot : SlotId) (isPeer : Bool) (certificate : String)
    (instant : Option Instant) : SlotM Unit := do
  let c ← ofResult (vouch certificate instant)
  let (seed, _) ← identity slot
  if !isPeer && !c.binds (Ed25519.publicKey seed) then
    fail (.failed .certificateVerification .foreignCertificate)

/-- Encrypts under a content key. The derived keys go into a slot of their own. -/
def encrypt (salt : Octets DerivedKeys.saltSize) (slot : SlotId) (message : Bytes) :
    SlotM (String × SlotId) := do
  requireFree 1
  let key ← content slot
  let keys := DerivedKeys.expand key salt .content
  let body ← step .encryption (keys.encrypt message)
  let derivedSlot ← insert (.derived keys)
  return (Salted.write ⟨salt, body⟩, derivedSlot)

/-- Decrypts what was encrypted under a content key. -/
def decrypt (slot : SlotId) (text : String) : SlotM Bytes := do
  let s ← step .decryption (Salted.parse text)
  let key ← content slot
  step .decryption ((DerivedKeys.expand key s.salt .content).decrypt s.body)

/-- Wraps a content key under an identity key. The derived keys go into a slot of their own. -/
def wrapKey (salt : Octets DerivedKeys.saltSize) (identitySlot contentSlot : SlotId) :
    SlotM (String × SlotId) := do
  requireFree 1
  let (seed, _) ← identity identitySlot
  let keys := DerivedKeys.expand seed salt .wrap
  let key ← content contentSlot
  let body ← step .keyWrap (keys.encrypt key.toList)
  let derivedSlot ← insert (.derived keys)
  return (Salted.write ⟨salt, body⟩, derivedSlot)

/-- Unwraps a content key into a slot. The derived keys go into another. -/
def unwrapKey (identitySlot : SlotId) (text : String) : SlotM (SlotId × SlotId) := do
  let s ← step .keyUnwrap (Salted.parse text)
  requireFree 2
  let (seed, _) ← identity identitySlot
  let keys := DerivedKeys.expand seed s.salt .wrap
  let message ← step .keyUnwrap (keys.decrypt s.body)
  match Octets.ofList? 32 message with
  | none => fail (.failed .keyUnwrap .unwrappedLength)
  | some key =>
    let contentSlot ← insert (.content key)
    let derivedSlot ← insert (.derived keys)
    return (contentSlot, derivedSlot)

/-- Seals a document with a signature by an identity key. -/
def sign (slot : SlotId) (document : Bytes) : SlotM Bytes := do
  let (seed, _) ← identity slot
  let tag := Hex.encode (Ed25519.sign seed document).toList
  step .signing ((Envelope.encode ⟨document, .signature, tag⟩).mapError .sealing)

/-- Seals a document with an authentication code under derived keys. -/
def authenticate (slot : SlotId) (document : Bytes) : SlotM Bytes := do
  let keys ← derived slot
  let tag := Hex.encode (keys.mac document).toList
  step .hmac ((Envelope.encode ⟨document, .mac, tag⟩).mapError .sealing)

/-- Checks the code of a sealed document against derived keys. -/
def verifyMac (slot : SlotId) (document : Bytes) : SlotM Unit := do
  let e ← step .hmac ((Envelope.decode document).mapError .envelope)
  if e.kind ≠ .mac then fail (.failed .hmac (.notAuthenticated e.kind))
  let code ← step .hmac ((Hex.decodeSized 32 (textBytes e.tag)).mapError .codeDigits)
  let keys ← derived slot
  if keys.mac e.data ≠ code then fail (.failed .hmac .badCode)

end SlotTable

/-- Checks the signature of a sealed document against the key that a certificate names. No slot is
needed for that. -/
def verifySignature (certificate : String) (document : Bytes) : Except CryptoError Unit := do
  let failed := CryptoError.failed .signatureVerification
  let c ← (Certificate.parse certificate).mapError .ofCertificate
  let e ← (Envelope.decode document).mapError fun error => failed (.envelope error)
  if e.kind ≠ .signature then throw (failed (.notSigned e.kind))
  let signature ← (Hex.decodeSized 64 (textBytes e.tag)).mapError fun error =>
    failed (.signatureDigits error)
  let key ← c.key.mapError .ofCertificate
  if key.verify e.data signature then return () else throw (failed .badSignature)

end ModelProtection
