/-
Encrypting the files of a model.

The files are read and encrypted one after the other in the order in which they
were given; the first that fails ends it all. Each encryption derives keys in a
slot of their own, which is cleared before the next file is read, so that one
free slot is enough for any number of files.
-/
import ModelProtection.Protect.Document
import ModelProtection.Protect.Input
import ModelProtection.Protect.Workflow

set_option autoImplicit false

namespace ModelProtection

/-- Encrypted files. -/
structure EncryptedFiles where
  /-- The files, in the order in which they were given. -/
  artifacts : List Artifact
  /-- The length of all ciphertexts. -/
  totalLength : Nat
deriving DecidableEq, Repr

section Encryption

variable {m : Type → Type} [Monad m] [CryptoService m] [Host m]

/-- Encrypts a file. The length of its ciphertext is added to `total`. -/
def encryptFile (content : KeyLease) (policy : TrailingByte) (total : Nat) (file : InputFile) :
    WorkflowT m (Artifact × Nat) := do
  let bytes ← WorkflowT.readInput file.path
  let (ciphertext, derived) ← WorkflowT.call (content.encrypt (policy.plaintext bytes))
  derived.during do
    match Size.add? total (byteLength ciphertext) with
    | none => throw (.allocation .ciphertextSize)
    | some total => return (⟨file.path.artifactName, ciphertext⟩, total)

/-- Encrypts files after others whose ciphertexts have the length `total`. -/
def encryptFrom (content : KeyLease) (policy : TrailingByte) :
    Nat → List InputFile → WorkflowT m EncryptedFiles
  | total, [] => return ⟨[], total⟩
  | total, file :: files => do
    let (artifact, total) ← encryptFile content policy total file
    let rest ← encryptFrom content policy total files
    return { rest with artifacts := artifact :: rest.artifacts }

/-- Encrypts files under a leased content key. -/
def encryptAll (content : KeyLease) (policy : TrailingByte) (files : List InputFile) :
    WorkflowT m EncryptedFiles :=
  encryptFrom content policy 0 files

end Encryption

end ModelProtection
