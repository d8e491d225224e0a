/-
Derived keys.

A content key or an identity key never encrypts anything itself. For each
operation a salt is drawn, and the key, the salt and a label for the use are
expanded into three keys: one that encrypts, with the nonce that goes with it,
and one that authenticates. What is encrypted is written as Base64 of the salt
and the ciphertext, so that whoever has the key can derive the same three again.
-/
import ModelProtection.Error.Crypto
import ModelProtection.Primitive.Aead
import ModelProtection.Primitive.Hmac

set_option autoImplicit false

namespace ModelProtection

/-- What derived keys are used for. -/
inductive KeyUse where
  /-- Encrypting a file under a content key. -/
  | content
  /-- Wrapping a content key under an identity key. -/
  | wrap
deriving DecidableEq, Repr

/-- The label of a use. -/
def KeyUse.label : KeyUse → String
  | content => "modelseal/content/v1"
  | wrap => "modelseal/key-wrap/v1"

/-- The keys that are derived for one operation. -/
structure DerivedKeys where
  /-- The key that encrypts. -/
  cipherKey : Octets 32
  /-- The nonce that goes with it. -/
  nonce : Octets 12
  /-- The key that authenticates. -/
  macKey : Octets 32
deriving DecidableEq

namespace DerivedKeys

/-- The number of bytes in a salt. -/
def saltSize : Nat := 16

/-- The keys that are derived from a key, a salt and a use. -/
def expand (key : Octets 32) (salt : Octets saltSize) (use : KeyUse) : DerivedKeys :=
  let expanded : Octets 76 := Hkdf.derive 76 salt.toList key.toList (textBytes use.label)
  { cipherKey := expanded.slice 0 32 (by decide)
    nonce := expanded.slice 32 12 (by decide)
    macKey := expanded.slice 44 32 (by decide) }

/-- The ciphertext of a message. -/
def encrypt (k : DerivedKeys) (message : Bytes) : Except CryptoFailure Bytes :=
  match Aead.sealed? k.cipherKey k.nonce message with
  | some ciphertext => .ok ciphertext
  | none => .error .messageTooLong

/-- The message of a ciphertext. -/
def decrypt (k : DerivedKeys) (ciphertext : Bytes) : Except CryptoFailure Bytes :=
  match Aead.unsealed? k.cipherKey k.nonce ciphertext with
  | some message => .ok message
  | none => .error .badTag

/-- The authentication code of a message. -/
def mac (k : DerivedKeys) (message : Bytes) : Octets 32 := hmac k.macKey.toList message

end DerivedKeys

/-- A ciphertext with the salt of its keys. -/
structure Salted where
  /-- The salt. -/
  salt : Octets DerivedKeys.saltSize
  /-- The ciphertext. -/
  body : Bytes
deriving DecidableEq

namespace Salted

/-- The written form. -/
def write (s : Salted) : String := Base64.encode (s.salt.toList ++ s.body)

/-- Reads the written form, around which there may be white space. -/
def parse (text : String) : Except CryptoFailure Salted :=
  match Base64.decode (Utf8.encode (Space.trim text.toList)) with
  | .error e => .error (.base64 e)
  | .ok bytes =>
    match Octets.ofList? DerivedKeys.saltSize (bytes.take DerivedKeys.saltSize) with
    | some salt => .ok ⟨salt, bytes.drop DerivedKeys.saltSize⟩
    | none => .error .noSalt

end Salted

end ModelProtection
