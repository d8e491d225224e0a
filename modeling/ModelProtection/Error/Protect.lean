/-
Errors of the whole workflow.

Each of the five classes has its causes. Errors of cryptographic operations keep
the class that they have there.
-/
import ModelProtection.Error.Crypto
import ModelProtection.Guid
import ModelProtection.Metadata
import ModelProtection.ModelHash

set_option autoImplicit false

namespace ModelProtection

/-- What is wrong with something that was given. -/
inductive ParameterFault where
  /-- A text is not a GUID. -/
  | guid (error : Guid.Error)
  /-- A text is not a digest. -/
  | hash (error : ModelHash.Error)
  /-- A text is missing or too long. -/
  | bound (error : Bound.Error)
  /-- A byte string is not a sealed document. -/
  | envelope (error : Envelope.Error)
  /-- A tag is too long. -/
  | sealing (error : Envelope.SealError)
  /-- No file was given. -/
  | noFiles
  /-- A wrapped key is too long for a license. -/
  | wrappedKeyTooLong (length : Nat)
  /-- The GUID of a license has another length than a GUID. -/
  | licenseGuidLength
  /-- The date of a license is too long. -/
  | dateTooLong
  /-- A context has no certificate. -/
  | noCertificate
  /-- A context has no GUID. -/
  | noGuid
  /-- A context has no digest. -/
  | noHash
  /-- Anything else. -/
  | reported (text : String)
deriving DecidableEq

/-- The most bytes of a wrapped key in a license. -/
def mostWrappedKey : Nat := 512

/-- The wording of a fault. -/
def ParameterFault.message : ParameterFault → String
  | .guid error => error.message
  | .hash error => error.message
  | .bound error => error.message
  | .envelope error => error.message
  | .sealing error => error.message
  | .noFiles => "at least one model file is required"
  | .wrappedKeyTooLong length => s!"wrapped key of {length} bytes exceeds {mostWrappedKey}"
  | .licenseGuidLength => s!"license GUID must be {Guid.textLength} characters"
  | .dateTooLong => "creation timestamp too long"
  | .noCertificate => "protection context has no certificate"
  | .noGuid => "protection context has no model GUID"
  | .noHash => "protection context has no model hash"
  | .reported text => text

/-- Why a buffer cannot be had. -/
inductive AllocationFault where
  /-- The buffer is larger than any. -/
  | reserve (error : Buffer.ReserveError)
  /-- The size of a model document does not fit a word. -/
  | modelSize
  /-- The size of a license does not fit a word. -/
  | licenseSize
  /-- The size of all ciphertexts does not fit a word. -/
  | ciphertextSize
  /-- Anything else. -/
  | reported (text : String)
deriving DecidableEq

/-- The wording of a fault. -/
def AllocationFault.message : AllocationFault → String
  | .reserve error => error.message
  | .modelSize => "protected model document size overflows"
  | .licenseSize => "master license size overflows"
  | .ciphertextSize => "total ciphertext length overflows"
  | .reported text => text

/-- Why a document cannot be written down. -/
inductive SerializationFault where
  /-- A model document does not fit its buffer. -/
  | model (error : Buffer.WriteError)
  /-- A license does not fit its buffer. -/
  | license (error : Buffer.WriteError)
  /-- A sealed document does not fit its buffer. -/
  | sealing (error : Envelope.SealError)
  /-- Anything else. -/
  | reported (text : String)
deriving DecidableEq

/-- The wording of a fault. -/
def SerializationFault.message : SerializationFault → String
  | .model error => "protected model: " ++ error.message
  | .license error => "master license: " ++ error.message
  | .sealing error => error.message
  | .reported text => text

/-- What can go wrong while a model is protected. -/
inductive ProtectError where
  /-- Something that was given is missing, too long or malformed. -/
  | parameter (fault : ParameterFault)
  /-- A file cannot be read or written. -/
  | fileOpen (path : Path) (error : FileError)
  /-- A buffer cannot be had. -/
  | allocation (fault : AllocationFault)
  /-- A cryptographic operation failed. -/
  | crypto (error : CryptoError)
  /-- A document cannot be written down. -/
  | serialization (fault : SerializationFault)
deriving DecidableEq

namespace ProtectError

/-- The class of an error. -/
def errorClass : ProtectError → ErrorClass
  | parameter _ => .parameter
  | fileOpen .. => .fileOpen
  | allocation _ => .allocation
  | crypto error => error.errorClass
  | serialization _ => .serialization

/-- The number of an error in reports. -/
def code (e : ProtectError) : Nat := e.errorClass.code

/-- The wording of an error. -/
def message : ProtectError → String
  | parameter fault => ErrorClass.parameter.sentence fault.message
  | fileOpen path error => ErrorClass.fileOpen.sentence (path.shown ++ ": " ++ error.message)
  | allocation fault => ErrorClass.allocation.sentence fault.message
  | crypto error => error.message
  | serialization fault => ErrorClass.serialization.sentence fault.message

/-- The error for a document that cannot be sealed. -/
def ofSealing : Envelope.SealError → ProtectError
  | .reserve error => allocation (.reserve error)
  | .tagTooLong kind length => parameter (.sealing (.tagTooLong kind length))
  | .write kind error => serialization (.sealing (.write kind error))

end ProtectError

end ModelProtection
