/-
Errors of cryptographic operations.

An operation fails for a cause of its own, or because a slot that it was given
cannot be used, or because there is no free slot. The operation that is named in
a report is not always the one that was asked for: a certificate that does not
hold is a failure to verify it wherever it turns up.
-/
import ModelProtection.Crypto.Slot
import ModelProtection.Envelope
import ModelProtection.Keystore

set_option autoImplicit false

namespace ModelProtection

/-- An operation that a report can name. -/
inductive CryptoOperation where
  /-- Looking up the certificate of an identity. -/
  | certificateRetrieval
  /-- Checking a certificate. -/
  | certificateVerification
  /-- Encrypting. -/
  | encryption
  /-- Decrypting. -/
  | decryption
  /-- Computing a digest. -/
  | hashing
  /-- Signing a document. -/
  | signing
  /-- Checking a signed document. -/
  | signatureVerification
  /-- Wrapping a content key. -/
  | keyWrap
  /-- Unwrapping a content key. -/
  | keyUnwrap
  /-- Computing or checking an authentication code. -/
  | hmac
  /-- Making a GUID. -/
  | guidGeneration
  /-- Loading an identity key. -/
  | keyLoad
  /-- Making a key. -/
  | keyGeneration
  /-- Managing the slots. -/
  | slotManagement
deriving DecidableEq, Repr

/-- The name of an operation. -/
def CryptoOperation.name : CryptoOperation → String
  | certificateRetrieval => "certificate retrieval"
  | certificateVerification => "certificate verification"
  | encryption => "encryption"
  | decryption => "decryption"
  | hashing => "hashing"
  | signing => "signing"
  | signatureVerification => "signature verification"
  | keyWrap => "key wrap"
  | keyUnwrap => "key unwrap"
  | hmac => "hmac"
  | guidGeneration => "guid generation"
  | keyLoad => "key load"
  | keyGeneration => "key generation"
  | slotManagement => "key slot management"

/-- Why an operation failed. -/
inductive CryptoFailure where
  /-- The service has not been initialised. -/
  | notInitialised
  /-- A content key of this size cannot be made. -/
  | keySize (size : Nat)
  /-- No certificate can be issued with this validity. -/
  | validity (error : Certificate.IssueError)
  /-- A certificate does not hold. -/
  | certificate (error : Certificate.Error)
  /-- A certificate names another key than that of the slot. -/
  | foreignCertificate
  /-- A keystore cannot be used. -/
  | keystore (error : Keystore.Error)
  /-- A ciphertext is not Base64. -/
  | base64 (error : Base64.Error)
  /-- A ciphertext is too short for its salt. -/
  | noSalt
  /-- A message is too long to be encrypted. -/
  | messageTooLong
  /-- A ciphertext was not made with this key. -/
  | badTag
  /-- What was unwrapped is not as long as a content key. -/
  | unwrappedLength
  /-- A document cannot be sealed. -/
  | sealing (error : Envelope.SealError)
  /-- A document is not sealed. -/
  | envelope (error : Envelope.Error)
  /-- A document has a code in place of a signature. -/
  | notSigned (found : Envelope.Kind)
  /-- A document has a signature in place of a code. -/
  | notAuthenticated (found : Envelope.Kind)
  /-- The signature of a document is not written in 128 digits. -/
  | signatureDigits (error : Hex.Error)
  /-- The code of a document is not written in 64 digits. -/
  | codeDigits (error : Hex.Error)
  /-- The signature of a document is not one by this key. -/
  | badSignature
  /-- The code of a document is not one under this key. -/
  | badCode
  /-- Anything else that a service reports. -/
  | reported (text : String)
deriving DecidableEq

/-- The wording of a cause. -/
def CryptoFailure.message : CryptoFailure → String
  | .notInitialised => "crypto service is not initialised"
  | .keySize size => s!"unsupported key size {size}, expected {contentKeySize}"
  | .validity error => error.message
  | .certificate error => error.message
  | .foreignCertificate => "certificate does not belong to the loaded identity key"
  | .keystore error => error.message
  | .base64 error => "base64: " ++ error.message
  | .noSalt => "ciphertext shorter than salt"
  | .messageTooLong => "AEAD seal failed"
  | .badTag => "authentication tag mismatch"
  | .unwrappedLength => "wrapped key has the wrong length"
  | .sealing error => error.errorClass.sentence error.message
  | .envelope error => ErrorClass.parameter.sentence error.message
  | .notSigned found => "expected signature, found " ++ found.label
  | .notAuthenticated found => "expected HMAC, found " ++ found.label
  | .signatureDigits error => "signature hex: " ++ error.message
  | .codeDigits error => "tag hex: " ++ error.message
  | .badSignature => "signature does not verify"
  | .badCode => "HMAC does not verify"
  | .reported text => text

/-- Why a slot cannot be used. -/
inductive SlotFault where
  /-- The slot is empty. -/
  | empty
  /-- The slot holds a key of another role. -/
  | wrongRole (expected found : KeyRole)
  /-- The lease of the slot has ended. -/
  | released (role : KeyRole)
  /-- Anything else that a service reports. -/
  | reported (text : String)
deriving DecidableEq, Repr

/-- The wording of a fault. -/
def SlotFault.message : SlotFault → String
  | .empty => "no live key material"
  | .wrongRole expected found => "expected " ++ expected.label ++ " key, found " ++ found.label
  | .released role => role.label ++ " slot already released"
  | .reported text => text

/-- What can go wrong with a cryptographic operation. -/
inductive CryptoError where
  /-- An operation failed. -/
  | failed (operation : CryptoOperation) (cause : CryptoFailure)
  /-- A slot cannot be used. -/
  | invalidSlot (slot : SlotId) (fault : SlotFault)
  /-- All slots are taken. -/
  | slotsExhausted (live : Nat)
deriving DecidableEq

namespace CryptoError

/-- The operation that a report names. -/
def operation : CryptoError → CryptoOperation
  | failed operation _ => operation
  | invalidSlot .. => .slotManagement
  | slotsExhausted _ => .slotManagement

/-- The class of an error. A slot that cannot be used is a wrong argument. -/
def errorClass : CryptoError → ErrorClass
  | failed .. => .crypto
  | invalidSlot .. => .parameter
  | slotsExhausted _ => .allocation

/-- The wording of an error. -/
def message : CryptoError → String
  | failed operation cause => operation.name ++ " failed: " ++ cause.message
  | invalidSlot slot fault => s!"invalid key slot {slot.number}: {fault.message}"
  | slotsExhausted live => s!"key slot table exhausted ({live} live slots)"

/-- The error for a certificate that does not hold. -/
def ofCertificate (e : Certificate.Error) : CryptoError :=
  failed .certificateVerification (.certificate e)

/-- The error for a certificate that cannot be issued. -/
def ofIssue (e : Certificate.IssueError) : CryptoError := failed .keyGeneration (.validity e)

/-- The error for a keystore that cannot be used. -/
def ofKeystore : Keystore.Error → CryptoError
  | .certificate e => ofCertificate e
  | e => failed .keyLoad (.keystore e)

end CryptoError

end ModelProtection
