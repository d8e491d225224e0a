/-
Classes of errors.

Everything that can go wrong belongs to one of five classes. A class has a name
and a number for reports, and a phrase with which the wording of its errors
begins. Cryptographic errors have no such phrase, because their wording already
names what failed.
-/
set_option autoImplicit false

namespace ModelProtection

/-- A class of errors. -/
inductive ErrorClass where
  /-- Something that was given is missing, too long or malformed. -/
  | parameter
  /-- A file could not be opened. -/
  | fileOpen
  /-- A buffer or a key slot could not be had. -/
  | allocation
  /-- A cryptographic operation failed. -/
  | crypto
  /-- A document could not be written down. -/
  | serialization
deriving DecidableEq, Repr

namespace ErrorClass

/-- The name of a class. -/
def name : ErrorClass → String
  | parameter => "parameter"
  | fileOpen => "file-open"
  | allocation => "allocation"
  | crypto => "crypto"
  | serialization => "serialization"

/-- The number of a class. -/
def code : ErrorClass → Nat
  | parameter => 1
  | fileOpen => 2
  | allocation => 3
  | crypto => 4
  | serialization => 5

/-- The wording of an error of a class, from the wording of its cause. -/
def sentence : ErrorClass → String → String
  | parameter, cause => "invalid parameter: " ++ cause
  | fileOpen, cause => "cannot open " ++ cause
  | allocation, cause => "allocation failed: " ++ cause
  | crypto, cause => cause
  | serialization, cause => "serialization error: " ++ cause

theorem code_injective {a b : ErrorClass} (h : a.code = b.code) : a = b := by
  cases a <;> cases b <;> first | rfl | contradiction

end ErrorClass

end ModelProtection
