/-
Key slots.

Key material is never handed out. Whoever asks for a key is given the number of
a slot that holds it, and names the slot in later requests. A slot holds an
identity key, a content key or the keys that were derived for one operation.
-/
set_option autoImplicit false

namespace ModelProtection

/-- The name of a key slot. -/
structure SlotId where
  /-- The number of the slot, counted from 1 in the order in which slots are filled. -/
  number : Nat
deriving DecidableEq, Repr

namespace SlotId

/-- The form that messages show. -/
def shown (s : SlotId) : String := "#" ++ toString s.number

/-- The form that reports show. -/
def described (s : SlotId) : String := "SlotId(" ++ toString s.number ++ ")"

end SlotId

/-- What a slot holds. -/
inductive KeyRole where
  /-- The key of an identity, with its certificate. -/
  | identity
  /-- A key that encrypts the files of a model. -/
  | content
  /-- The keys that were derived for one operation. -/
  | derived
deriving DecidableEq, Repr

namespace KeyRole

/-- The word for a role. -/
def label : KeyRole → String
  | identity => "identity"
  | content => "content"
  | derived => "derived"

/-- The form that reports show. -/
def described : KeyRole → String
  | identity => "Identity"
  | content => "Content"
  | derived => "Derived"

end KeyRole

/-- The number of bytes in a content key. -/
def contentKeySize : Nat := 32

end ModelProtection
