/-
A service that keeps a journal.

This service passes every call on to another one and writes it down. It can be
told beforehand that the call of some method which comes at some position among
the calls of that method is to go another way: it fails without being passed on,
or its text is replaced. So the order in which a workflow calls its service can
be looked at, and what the workflow does when any one call fails.
-/
import ModelProtection.Crypto.Service
import ModelProtection.Host.World

set_option autoImplicit false

namespace ModelProtection

/-- A method of a service. -/
inductive ServiceMethod where
  /-- Starting. -/
  | initialise
  /-- Stopping. -/
  | shutDown
  /-- Loading an identity key. -/
  | loadIdentity
  /-- Making a content key. -/
  | generateContentKey
  /-- Clearing a slot. -/
  | clearSlot
  /-- Looking up a certificate. -/
  | certificate
  /-- Checking a certificate. -/
  | verifyCertificate
  /-- Encrypting. -/
  | encrypt
  /-- Computing a digest. -/
  | hash
  /-- Signing. -/
  | sign
  /-- Wrapping a key. -/
  | wrapKey
  /-- Authenticating. -/
  | authenticate
  /-- Making a GUID. -/
  | generateGuid
deriving DecidableEq, Repr

/-- The operation that a failure of a method is reported as. -/
def ServiceMethod.operation : ServiceMethod → CryptoOperation
  | initialise => .slotManagement
  | shutDown => .slotManagement
  | loadIdentity => .keyLoad
  | generateContentKey => .keyGeneration
  | clearSlot => .slotManagement
  | certificate => .certificateRetrieval
  | verifyCertificate => .certificateVerification
  | encrypt => .encryption
  | hash => .hashing
  | sign => .signing
  | wrapKey => .keyWrap
  | authenticate => .hmac
  | generateGuid => .guidGeneration

/-- A call as it is written down. Of byte strings and texts only the length is. -/
inductive ServiceCall where
  /-- Starting. -/
  | initialise
  /-- Stopping. -/
  | shutDown
  /-- Loading an identity key. -/
  | loadIdentity (keystore : Path)
  /-- Making a content key. -/
  | generateContentKey (size : Nat)
  /-- Clearing a slot. -/
  | clearSlot (slot : SlotId)
  /-- Looking up a certificate. -/
  | certificate (slot : SlotId)
  /-- Checking a certificate. -/
  | verifyCertificate (slot : SlotId) (isPeer : Bool) (length : Nat) (checkLifetime : Bool)
  /-- Encrypting. -/
  | encrypt (slot : SlotId) (length : Nat)
  /-- Computing a digest. -/
  | hash (length : Nat)
  /-- Signing. -/
  | sign (slot : SlotId) (length : Nat)
  /-- Wrapping a key. -/
  | wrapKey (identitySlot contentSlot : SlotId)
  /-- Authenticating. -/
  | authenticate (slot : SlotId) (length : Nat)
  /-- Making a GUID. -/
  | generateGuid
deriving DecidableEq

/-- The method of a call. -/
def ServiceCall.method : ServiceCall → ServiceMethod
  | initialise => .initialise
  | shutDown => .shutDown
  | loadIdentity _ => .loadIdentity
  | generateContentKey _ => .generateContentKey
  | clearSlot _ => .clearSlot
  | certificate _ => .certificate
  | verifyCertificate .. => .verifyCertificate
  | encrypt .. => .encrypt
  | hash _ => .hash
  | sign .. => .sign
  | wrapKey .. => .wrapKey
  | authenticate .. => .authenticate
  | generateGuid => .generateGuid

/-- Another way for a call to go. -/
inductive Detour where
  /-- The call is not passed on and fails with a text. -/
  | fail (text : String)
  /-- The call is not passed on and fails for want of a slot. -/
  | exhausted (live : Nat)
  /-- The call is passed on, and the text that it gives is replaced. -/
  | replace (text : String)
  /-- A check is not passed on and succeeds. -/
  | skip
deriving DecidableEq, Repr

/-- A detour for one call. -/
structure Fault where
  /-- The method. -/
  method : ServiceMethod
  /-- The position among the calls of the method, from 1. -/
  position : Nat
  /-- The way that the call goes. -/
  detour : Detour
deriving DecidableEq, Repr

/-- The calls that have been written down, and the detours. -/
structure Journal where
  /-- The calls, the latest first. -/
  entries : List ServiceCall := []
  /-- The detours. -/
  faults : List Fault := []

namespace Journal

/-- The calls in their order. -/
def calls (j : Journal) : List ServiceCall := j.entries.reverse

/-- The journal with one more call. -/
def add (j : Journal) (call : ServiceCall) : Journal := { j with entries := call :: j.entries }

/-- The detour for the latest call. -/
def detour? (j : Journal) : Option Detour :=
  match j.entries with
  | [] => none
  | call :: _ =>
    let position := j.entries.countP (·.method = call.method)
    (j.faults.find? fun f => f.method = call.method ∧ f.position = position).map (·.detour)

end Journal

/-- Computations over a service that keep a journal. -/
abbrev JournalT (m : Type → Type) := StateT Journal m

namespace JournalT

variable {m : Type → Type} [Monad m] {α : Type}

/-- Writes a call down and passes it on. -/
def passOn (call : ServiceCall) (forward : m α) : JournalT m α := do
  modify fun j => j.add call
  StateT.lift forward

/-- Writes a call down and passes it on unless it goes another way. `replaced` is the result with a
text replaced, and `skipped` the result of a call that is not made. -/
def call (entry : ServiceCall) (forward : m (Except CryptoError α))
    (replaced : String → α → Except CryptoError α) (skipped : Option α) :
    JournalT m (Except CryptoError α) := do
  modify fun j => j.add entry
  match (← get).detour?, skipped with
  | some (.fail text), _ => return .error (.failed entry.method.operation (.reported text))
  | some (.exhausted live), _ => return .error (.slotsExhausted live)
  | some .skip, some a => return .ok a
  | some (.replace text), _ => do
    match ← StateT.lift forward with
    | .error e => return .error e
    | .ok a => return replaced text a
  | _, _ => StateT.lift forward

/-- A result in which no text can be replaced. -/
def unchanged (_ : String) (a : α) : Except CryptoError α := .ok a

/-- A GUID replaced by the one that a text spells. -/
def guidOf (text : String) (_ : Guid) : Except CryptoError Guid :=
  match Guid.parse text with
  | .ok g => .ok g
  | .error e =>
    .error (.failed .guidGeneration (.reported (ErrorClass.parameter.sentence e.message)))

end JournalT

instance {m : Type → Type} [Monad m] [CryptoService m] : CryptoService (JournalT m) where
  initialise := JournalT.call .initialise CryptoService.initialise JournalT.unchanged none
  shutDown := JournalT.passOn .shutDown CryptoService.shutDown
  loadIdentity keystore :=
    JournalT.call (.loadIdentity keystore) (CryptoService.loadIdentity keystore)
      JournalT.unchanged none
  generateContentKey size :=
    JournalT.call (.generateContentKey size) (CryptoService.generateContentKey size)
      JournalT.unchanged none
  clearSlot slot := JournalT.passOn (.clearSlot slot) (CryptoService.clearSlot slot)
  certificate slot :=
    JournalT.call (.certificate slot) (CryptoService.certificate slot) (fun text _ => .ok text) none
  verifyCertificate slot isPeer certificate checkLifetime :=
    JournalT.call (.verifyCertificate slot isPeer (textBytes certificate).length checkLifetime)
      (CryptoService.verifyCertificate slot isPeer certificate checkLifetime)
      JournalT.unchanged (some ())
  encrypt slot message :=
    JournalT.call (.encrypt slot message.length) (CryptoService.encrypt slot message)
      (fun text result => .ok (text, result.2)) none
  hash bytes :=
    JournalT.call (.hash bytes.length) (CryptoService.hash bytes) JournalT.unchanged none
  sign slot document :=
    JournalT.call (.sign slot document.length) (CryptoService.sign slot document)
      JournalT.unchanged none
  wrapKey identitySlot contentSlot :=
    JournalT.call (.wrapKey identitySlot contentSlot)
      (CryptoService.wrapKey identitySlot contentSlot)
      (fun text result => .ok (text, result.2)) none
  authenticate slot document :=
    JournalT.call (.authenticate slot document.length) (CryptoService.authenticate slot document)
      JournalT.unchanged none
  generateGuid := JournalT.call .generateGuid CryptoService.generateGuid JournalT.guidOf none

end ModelProtection
