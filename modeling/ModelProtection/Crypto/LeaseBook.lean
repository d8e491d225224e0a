/-
Runs of leases over one service.

A book keeps every lease and every session that was ever made over a service, in
the order in which they were made. A request makes a new one or acts on one that
is named by its place in the book. This is how leases and sessions of which some
outlive others are put side by side with the slots that are live.
-/
import ModelProtection.Crypto.Lease

set_option autoImplicit false

namespace ModelProtection

/-- The leases and sessions that were made over a service. -/
structure LeaseBook where
  /-- The leases, first to last. -/
  leases : List KeyLease := []
  /-- The sessions, first to last. -/
  sessions : List Session := []

/-- Something that is done with leases. Leases and sessions are named by their place in the book. -/
inductive LeaseRequest where
  /-- Opens a session. -/
  | openSession
  /-- Closes a session. -/
  | closeSession (session : Nat)
  /-- Leases the identity key of a keystore. -/
  | loadIdentity (keystore : Path)
  /-- Leases a fresh content key. -/
  | generateContentKey (size : Nat)
  /-- Takes over a slot that something else obtained. -/
  | adopt (slot : SlotId) (role : KeyRole)
  /-- Encrypts under a leased key. -/
  | encrypt (content : Nat) (message : Bytes)
  /-- Wraps a leased key under another. -/
  | wrapKey (identity content : Nat)
  /-- Ends a lease. -/
  | release (lease : Nat)

/-- What comes of a request. -/
inductive LeaseAnswer where
  /-- It is done. -/
  | done
  /-- A session was opened; it stands at a place in the book. -/
  | session (place : Nat)
  /-- A lease was made; it stands at a place in the book. -/
  | lease (place : Nat)
  /-- A text was made, and a lease. -/
  | textAndLease (text : String) (place : Nat)
  /-- Nothing stands at a place that the request names. -/
  | noSuchPlace
  /-- The service refused. -/
  | refused (error : CryptoError)

namespace LeaseBook

/-- The book with a new lease. -/
def addLease (b : LeaseBook) (l : KeyLease) : LeaseBook := { b with leases := b.leases ++ [l] }

/-- The answer to a call that makes a lease, and the book with it. -/
def withLease (b : LeaseBook) : Except CryptoError KeyLease → LeaseAnswer × LeaseBook
  | .error e => (.refused e, b)
  | .ok l => (.lease b.leases.length, b.addLease l)

/-- The answer to a call that makes a text and a lease, and the book with the lease. -/
def withTextAndLease (b : LeaseBook) :
    Except CryptoError (String × KeyLease) → LeaseAnswer × LeaseBook
  | .error e => (.refused e, b)
  | .ok (text, l) => (.textAndLease text b.leases.length, b.addLease l)

variable {m : Type → Type} [Monad m] [CryptoService m]

/-- Does what is requested. -/
def handle (b : LeaseBook) : LeaseRequest → m (LeaseAnswer × LeaseBook)
  | .openSession => do
    match ← Session.start with
    | .error e => return (.refused e, b)
    | .ok s => return (.session b.sessions.length, { b with sessions := b.sessions ++ [s] })
  | .closeSession i =>
    match b.sessions[i]? with
    | none => return (.noSuchPlace, b)
    | some s => do
      let s ← s.close
      return (.done, { b with sessions := b.sessions.set i s })
  | .loadIdentity keystore => do return b.withLease (← KeyLease.loadIdentity keystore)
  | .generateContentKey size => do return b.withLease (← KeyLease.generateContentKey size)
  | .adopt slot role => return (.lease b.leases.length, b.addLease { slot, role })
  | .encrypt i message =>
    match b.leases[i]? with
    | none => return (.noSuchPlace, b)
    | some content => do return b.withTextAndLease (← content.encrypt message)
  | .wrapKey i j =>
    match b.leases[i]?, b.leases[j]? with
    | some identity, some content => do
      return b.withTextAndLease (← identity.wrapKey content)
    | _, _ => return (.noSuchPlace, b)
  | .release i =>
    match b.leases[i]? with
    | none => return (.noSuchPlace, b)
    | some l => do
      let l ← l.release
      return (.done, { b with leases := b.leases.set i l })

end LeaseBook

end ModelProtection
