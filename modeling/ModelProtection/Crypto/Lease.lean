/-
Leases of key slots.

Whoever obtains a slot holds a lease on it and must end the lease, which clears
the slot. A lease that has ended does not tell its slot any more, so that a slot
is never named after it has been cleared, and ending it again does nothing. A
session is a lease on the service itself.
-/
import ModelProtection.Crypto.Service

set_option autoImplicit false

namespace ModelProtection

/-! ## Leases -/

/-- A lease of a slot. -/
structure KeyLease where
  /-- The slot. -/
  slot : SlotId
  /-- What the slot holds. -/
  role : KeyRole
  /-- Whether the lease has ended. -/
  released : Bool := false
deriving DecidableEq, Repr

namespace KeyLease

/-- The slot of a lease that has not ended. -/
def id (l : KeyLease) : Except CryptoError SlotId :=
  if l.released then .error (.invalidSlot l.slot (.released l.role)) else .ok l.slot

/-- The form that reports show. -/
def shown (l : KeyLease) : String :=
  "KeySlot \x7b id: " ++ l.slot.described ++ ", role: " ++ l.role.described
    ++ ", released: " ++ toString l.released ++ " \x7d"

variable {m : Type → Type} [Monad m] [CryptoService m]

/-- Ends a lease. -/
def release (l : KeyLease) : m KeyLease := do
  if l.released then return l
  CryptoService.clearSlot l.slot
  return { l with released := true }

/-- A lease of the slot that a call gives. -/
def ofCall (role : KeyRole) (call : m (Except CryptoError SlotId)) :
    m (Except CryptoError KeyLease) := do
  return (← call).map fun slot => { slot, role }

/-- A text with a lease of the slot that a call gives. -/
def ofDerivingCall (call : m (Except CryptoError (String × SlotId))) :
    m (Except CryptoError (String × KeyLease)) := do
  return (← call).map fun (text, slot) => (text, { slot, role := .derived })

/-- A lease of the identity key in a keystore. -/
def loadIdentity (keystore : Path) : m (Except CryptoError KeyLease) :=
  ofCall .identity (CryptoService.loadIdentity keystore)

/-- A lease of a fresh content key. -/
def generateContentKey (size : Nat) : m (Except CryptoError KeyLease) :=
  ofCall .content (CryptoService.generateContentKey size)

/-- Encrypts under a leased content key, with a lease of the derived keys. -/
def encrypt (content : KeyLease) (message : Bytes) : m (Except CryptoError (String × KeyLease)) :=
  match content.id with
  | .error e => return .error e
  | .ok slot => ofDerivingCall (CryptoService.encrypt slot message)

/-- Wraps a leased content key under a leased identity key, with a lease of the derived keys. -/
def wrapKey (identity content : KeyLease) : m (Except CryptoError (String × KeyLease)) :=
  match identity.id, content.id with
  | .error e, _ => return .error e
  | .ok _, .error e => return .error e
  | .ok identitySlot, .ok contentSlot =>
    ofDerivingCall (CryptoService.wrapKey identitySlot contentSlot)

/-! ### The span of a lease -/

variable {ε α : Type}

/-- Ends a lease after a computation, whether that fails or not. -/
def during (l : KeyLease) (body : ExceptT ε m α) : ExceptT ε m α := ExceptT.mk do
  let result ← body.run
  let _ ← (l.release : m KeyLease)
  return result

/-- Ends a lease after a computation that fails. One that does not fail has given the lease away. -/
def releaseOnError (l : KeyLease) (body : ExceptT ε m α) : ExceptT ε m α := ExceptT.mk do
  match ← body.run with
  | .ok a => return .ok a
  | .error e => do
    let _ ← (l.release : m KeyLease)
    return .error e

end KeyLease

/-! ## Sessions -/

/-- A session with a service. -/
structure Session where
  /-- Whether the session has not been closed. -/
  isOpen : Bool := true
deriving DecidableEq, Repr

namespace Session

variable {m : Type → Type} [Monad m] [CryptoService m]

/-- Opens a session, which starts the service. -/
def start : m (Except CryptoError Session) := do
  return (← CryptoService.initialise).map fun () => {}

/-- Closes a session, which stops the service. -/
def close (s : Session) : m Session := do
  if s.isOpen then CryptoService.shutDown
  return { s with isOpen := false }

/-- Closes a session after a computation, whether that fails or not. -/
def during {ε α : Type} (s : Session) (body : ExceptT ε m α) : ExceptT ε m α := ExceptT.mk do
  let result ← body.run
  let _ ← (s.close : m Session)
  return result

end Session

end ModelProtection
