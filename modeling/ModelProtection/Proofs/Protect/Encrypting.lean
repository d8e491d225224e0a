/-
How the files of a model are encrypted.

`Encrypts` lists every way in which encrypting files in turn can go, told without
slots: from the key, the files of the world and the random bytes that are next.

All that a file does to the table is that a new slot is filled and cleared before
the next file is read (`encryptFile_runs`). So whatever outlasts that holds through
any number of files, if it says that the content key is leased, and a run is one of
those in the list (`encryptFrom_runs_of_invariant`). What is carried along is either
`LeasedContent` alone or `Leased`, with the identity that a build needs afterwards.
-/
import ModelProtection.Proofs.Protect.Steps

set_option autoImplicit false

namespace ModelProtection

variable {t t' : SlotTable} {w w' : World} {k : Keystore} {key : Octets 32} {full : Prop}
  {identitySlot contentSlot : SlotId}

/-! ## Leases -/

/-- A slot is live and holds a content key. Whether the table is full is kept with it, since every
operation that derives keys asks for it first. -/
structure LeasedContent (t : SlotTable) (key : Octets 32) (full : Prop) (contentSlot : SlotId) :
    Prop where
  /-- The service has been started. -/
  initialised : t.initialised = true
  /-- The slot holds the content key. -/
  content : t.material? contentSlot = some (.content key)
  /-- The slot is not one that is still to come. -/
  content_le : contentSlot.number ≤ t.issued
  /-- Whether there is no room for one more slot. -/
  full_iff : full ↔ SlotTable.mostLive < t.liveCount + 1

/-- Two slots are live and hold an identity and a content key, and it is known whether the table is
full. -/
structure Leased (t : SlotTable) (k : Keystore) (key : Octets 32) (full : Prop)
    (identitySlot contentSlot : SlotId) : Prop where
  /-- The service has been started. -/
  initialised : t.initialised = true
  /-- The first slot holds the identity. -/
  identity : t.material? identitySlot = some (.identity k.seed k.certificate)
  /-- The second slot holds the content key. -/
  content : t.material? contentSlot = some (.content key)
  /-- The first slot is not one that is still to come. -/
  identity_le : identitySlot.number ≤ t.issued
  /-- The second slot is not one that is still to come. -/
  content_le : contentSlot.number ≤ t.issued
  /-- Whether there is no room for one more slot. -/
  full_iff : full ↔ SlotTable.mostLive < t.liveCount + 1

namespace LeasedContent

/-- A slot that was filled and cleared leaves the lease as it is. -/
theorem clear_fill (h : LeasedContent t key full contentSlot) (hfree : ¬ full)
    (material : KeyMaterial) :
    LeasedContent ((t.fill material).clear t.next) key full contentSlot where
  initialised := h.initialised
  content := by rw [SlotTable.material?_clear_fill h.content_le, h.content]
  content_le := Nat.le_succ_of_le h.content_le
  full_iff := by
    -- there was room before, and there are no more live slots now
    have hroom : ¬ SlotTable.mostLive < t.liveCount + 1 := fun hf => hfree (h.full_iff.2 hf)
    have hcleared := SlotTable.liveCount_clear_fill_le t material
    exact iff_of_false hfree (by omega)

section Encrypt

variable (h : LeasedContent t key full contentSlot) {message : Bytes}
include h

/-- Encrypting in a full table. The salt is drawn before the table is asked for room. -/
theorem encrypt_full (hfull : full) :
    Runs (WorkflowT.call (KeyLease.encrypt ⟨contentSlot, .content, false⟩ message)) t w
      (.error (.crypto (.slotsExhausted t.liveCount))) t (w.afterDraw DerivedKeys.saltSize) := by
  have hop := SlotTable.encrypt_eq h.initialised h.content (w.nextRandom DerivedKeys.saltSize) message
  rw [if_pos (h.full_iff.1 hfull)] at hop
  exact Runs.derivation (CryptoService.encrypt contentSlot message)
    (Runs.operation_error (w := w.afterDraw DerivedKeys.saltSize) hop)

theorem encrypt_error (hfree : ¬ full) {e : CryptoFailure}
    (hencrypt : (DerivedKeys.expand key (w.nextRandom DerivedKeys.saltSize) .content).encrypt message
      = .error e) :
    Runs (WorkflowT.call (KeyLease.encrypt ⟨contentSlot, .content, false⟩ message)) t w
      (.error (.crypto (.failed .encryption e))) t (w.afterDraw DerivedKeys.saltSize) := by
  have hop := SlotTable.encrypt_eq h.initialised h.content (w.nextRandom DerivedKeys.saltSize) message
  rw [if_neg fun hf => hfree (h.full_iff.2 hf), hencrypt] at hop
  exact Runs.derivation (CryptoService.encrypt contentSlot message)
    (Runs.operation_error (w := w.afterDraw DerivedKeys.saltSize) hop)

/-- Encrypting where there is room. -/
theorem encrypt_ok (hfree : ¬ full) {body : Bytes}
    (hencrypt : (DerivedKeys.expand key (w.nextRandom DerivedKeys.saltSize) .content).encrypt message
      = .ok body) :
    Runs (WorkflowT.call (KeyLease.encrypt ⟨contentSlot, .content, false⟩ message)) t w
      (.ok (Salted.write ⟨w.nextRandom DerivedKeys.saltSize, body⟩, ⟨t.next, .derived, false⟩))
      (t.fill (.derived (DerivedKeys.expand key (w.nextRandom DerivedKeys.saltSize) .content)))
      (w.afterDraw DerivedKeys.saltSize) := by
  have hop := SlotTable.encrypt_eq h.initialised h.content (w.nextRandom DerivedKeys.saltSize) message
  rw [if_neg fun hf => hfree (h.full_iff.2 hf), hencrypt] at hop
  exact Runs.derivation (CryptoService.encrypt contentSlot message)
    (Runs.operation_ok (w := w.afterDraw DerivedKeys.saltSize) hop)

end Encrypt

end LeasedContent

namespace Leased

theorem leasedContent (h : Leased t k key full identitySlot contentSlot) :
    LeasedContent t key full contentSlot :=
  ⟨h.initialised, h.content, h.content_le, h.full_iff⟩

/-- A slot that was filled and cleared leaves the leases as they are. -/
theorem clear_fill (h : Leased t k key full identitySlot contentSlot) (hfree : ¬ full)
    (material : KeyMaterial) :
    Leased ((t.fill material).clear t.next) k key full identitySlot contentSlot where
  initialised := h.initialised
  identity := by rw [SlotTable.material?_clear_fill h.identity_le, h.identity]
  content := (h.leasedContent.clear_fill hfree material).content
  identity_le := Nat.le_succ_of_le h.identity_le
  content_le := Nat.le_succ_of_le h.content_le
  full_iff := (h.leasedContent.clear_fill hfree material).full_iff

end Leased

/-! ## One file -/

/-- A file is encrypted: it can be read, and what is taken from it goes under the keys of the salt
that is drawn next. -/
structure EncryptsFile (key : Octets 32) (policy : TrailingByte) (w : World) (file : InputFile)
    (artifact : Artifact) : Prop where
  /-- What the file holds, and what becomes of it. -/
  exists_body : ∃ content body, w.files.read file.path = .ok content
    ∧ (DerivedKeys.expand key (w.nextRandom DerivedKeys.saltSize) .content).encrypt
        (policy.plaintext content) = .ok body
    ∧ artifact.ciphertext = Salted.write ⟨w.nextRandom DerivedKeys.saltSize, body⟩
  /-- The name that is recorded. -/
  name_eq : artifact.name = file.path.artifactName

/-- A file is not encrypted, for an error, and leaves a world. -/
inductive FailsFile (key : Octets 32) (policy : TrailingByte) (full : Prop) (w : World) (total : Nat)
    (file : InputFile) : ProtectError → World → Prop where
  /-- The file cannot be read. -/
  | unreadable {e : FileError} (hread : w.files.read file.path = .error e) :
    FailsFile key policy full w total file (.fileOpen file.path e) w
  /-- There is no slot for the derived keys. -/
  | full {content : Bytes} (live : Nat) (hread : w.files.read file.path = .ok content)
    (hfull : full) :
    FailsFile key policy full w total file (.crypto (.slotsExhausted live))
      (w.afterDraw DerivedKeys.saltSize)
  /-- What is taken from the file cannot be encrypted. -/
  | encryption {content : Bytes} {e : CryptoFailure} (hread : w.files.read file.path = .ok content)
    (hfree : ¬ full)
    (hencrypt : (DerivedKeys.expand key (w.nextRandom DerivedKeys.saltSize) .content).encrypt
      (policy.plaintext content) = .error e) :
    FailsFile key policy full w total file (.crypto (.failed .encryption e))
      (w.afterDraw DerivedKeys.saltSize)
  /-- The length of all ciphertexts does not fit a word. -/
  | overflow {artifact : Artifact} (hfile : EncryptsFile key policy w file artifact) (hfree : ¬ full)
    (htotal : Size.add? total (byteLength artifact.ciphertext) = none) :
    FailsFile key policy full w total file (.allocation .ciphertextSize)
      (w.afterDraw DerivedKeys.saltSize)

variable {policy : TrailingByte}

/-- What becomes of a file, of the table and of the world. -/
theorem encryptFile_runs (h : LeasedContent t key full contentSlot) {total : Nat}
    {file : InputFile} {result : Except ProtectError (Artifact × Nat)}
    (hrun : Runs (encryptFile ⟨contentSlot, .content, false⟩ policy total file) t w result t' w') :
    (∃ e, result = .error e ∧ FailsFile key policy full w total file e w')
      ∨ ∃ artifact total' material, result = .ok (artifact, total') ∧ ¬ full
        ∧ t' = (t.fill material).clear t.next
        ∧ EncryptsFile key policy w file artifact
        ∧ Size.add? total (byteLength artifact.ciphertext) = some total'
        ∧ w' = w.afterDraw DerivedKeys.saltSize := by
  -- one case for each step: the read, the room, the cipher, the sum of the lengths
  rw [encryptFile] at hrun
  rcases hread : w.files.read file.path with e | content
  · obtain ⟨rfl, -, rfl⟩ := hrun.bind_error (.readInput_error hread)
    exact .inl ⟨_, rfl, .unreadable hread⟩
  replace hrun := hrun.bind_ok (.readInput_ok hread)
  by_cases hfull : full
  · obtain ⟨rfl, -, rfl⟩ := hrun.bind_error (h.encrypt_full hfull)
    exact .inl ⟨_, rfl, .full _ hread hfull⟩
  rcases hencrypt : (DerivedKeys.expand key (w.nextRandom DerivedKeys.saltSize) .content).encrypt
    (policy.plaintext content) with e | body
  · obtain ⟨rfl, -, rfl⟩ := hrun.bind_error (h.encrypt_error hfull hencrypt)
    exact .inl ⟨_, rfl, .encryption hread hfull hencrypt⟩
  have hfile : EncryptsFile key policy w file ⟨file.path.artifactName,
      Salted.write ⟨w.nextRandom DerivedKeys.saltSize, body⟩⟩ :=
    ⟨⟨content, body, hread, hencrypt, rfl⟩, rfl⟩
  -- the derived keys go when the length has been added up, whatever comes of that
  obtain ⟨t₁, hsum, rfl⟩ := (hrun.bind_ok (h.encrypt_ok hfull hencrypt)).during rfl
  split at hsum
  · rename_i htotal
    obtain ⟨rfl, rfl, rfl⟩ := hsum.throw
    exact .inl ⟨_, rfl, .overflow hfile hfull htotal⟩
  · rename_i total' htotal
    obtain ⟨rfl, rfl, rfl⟩ := hsum.pure
    exact .inr ⟨_, total', _, rfl, hfull, rfl, hfile, htotal, rfl⟩

/-! ## All files -/

/-- Encrypting files, one after the other, gives a result and leaves a world. -/
inductive Encrypts (key : Octets 32) (policy : TrailingByte) (full : Prop) :
    World → Nat → List InputFile → Except ProtectError EncryptedFiles → World → Prop where
  /-- There are no files. -/
  | nil {w : World} {total : Nat} : Encrypts key policy full w total [] (.ok ⟨[], total⟩) w
  /-- The first file fails. -/
  | first {w w' : World} {total : Nat} {file : InputFile} {files : List InputFile}
    {e : ProtectError} (hfile : FailsFile key policy full w total file e w') :
    Encrypts key policy full w total (file :: files) (.error e) w'
  /-- The first file is encrypted, and a later one fails. -/
  | later {w w' : World} {total total' : Nat} {file : InputFile} {files : List InputFile}
    {artifact : Artifact} {e : ProtectError} (hfree : ¬ full)
    (hfile : EncryptsFile key policy w file artifact)
    (htotal : Size.add? total (byteLength artifact.ciphertext) = some total')
    (hfiles : Encrypts key policy full (w.afterDraw DerivedKeys.saltSize) total' files (.error e) w') :
    Encrypts key policy full w total (file :: files) (.error e) w'
  /-- All files are encrypted. -/
  | all {w w' : World} {total total' : Nat} {file : InputFile} {files : List InputFile}
    {artifact : Artifact} {rest : EncryptedFiles} (hfree : ¬ full)
    (hfile : EncryptsFile key policy w file artifact)
    (htotal : Size.add? total (byteLength artifact.ciphertext) = some total')
    (hfiles : Encrypts key policy full (w.afterDraw DerivedKeys.saltSize) total' files (.ok rest) w') :
    Encrypts key policy full w total (file :: files)
      (.ok { rest with artifacts := artifact :: rest.artifacts }) w'

/-- Files are encrypted in one of the ways in the list, and where that succeeds, what outlasts a slot
that is filled and cleared holds of the table as before. -/
theorem encryptFrom_runs_of_invariant (Inv : SlotTable → Prop)
    (hcontent : ∀ t, Inv t → LeasedContent t key full contentSlot)
    (hkeeps : ∀ t material, ¬ full → Inv t → Inv ((t.fill material).clear t.next)) (h : Inv t)
    {total : Nat} {files : List InputFile} {result : Except ProtectError EncryptedFiles}
    (hrun : Runs (encryptFrom ⟨contentSlot, .content, false⟩ policy total files) t w result t' w') :
    Encrypts key policy full w total files result w'
      ∧ ∀ encrypted, result = .ok encrypted → Inv t' := by
  -- each file leaves a table in which the invariant holds again
  induction files generalizing t w total result with
  | nil =>
    rw [encryptFrom] at hrun
    obtain ⟨rfl, rfl, rfl⟩ := hrun.pure
    exact ⟨.nil, fun _ _ => h⟩
  | cons file files ih =>
    rw [encryptFrom] at hrun
    rcases hrun.bind with ⟨e, rfl, hfile⟩ | ⟨⟨artifact, total'⟩, t₁, w₁, hfile, hgo⟩
    · rcases encryptFile_runs (hcontent t h) hfile with ⟨e', he, hfails⟩ | ⟨_, _, _, hresult, -⟩
      · cases he
        exact ⟨.first hfails, nofun⟩
      · cases hresult
    rcases encryptFile_runs (hcontent t h) hfile with
      ⟨_, hresult, -⟩ | ⟨_, _, material, hresult, hfree, rfl, hfile, htotal, rfl⟩
    · cases hresult
    cases hresult
    have h₁ := hkeeps t material hfree h
    rcases hgo.bind with ⟨e, rfl, hrest⟩ | ⟨rest, t₂, w₂, hrest, hdone⟩
    · exact ⟨.later hfree hfile htotal (ih h₁ hrest).1, nofun⟩
    · obtain ⟨rfl, rfl, rfl⟩ := hdone.pure
      obtain ⟨hfiles, hinv⟩ := ih h₁ hrest
      exact ⟨.all hfree hfile htotal hfiles, fun _ _ => hinv rest rfl⟩

section Runs

variable {total : Nat} {files : List InputFile} {result : Except ProtectError EncryptedFiles}
  (hrun : Runs (encryptFrom ⟨contentSlot, .content, false⟩ policy total files) t w result t' w')
include hrun

theorem LeasedContent.encryptFrom_runs (h : LeasedContent t key full contentSlot) :
    Encrypts key policy full w total files result w'
      ∧ ∀ encrypted, result = .ok encrypted → LeasedContent t' key full contentSlot :=
  encryptFrom_runs_of_invariant (LeasedContent · key full contentSlot) (fun _ h => h)
    (fun _ material hfree h => h.clear_fill hfree material) h hrun

theorem Leased.encryptFrom_runs (h : Leased t k key full identitySlot contentSlot) :
    Encrypts key policy full w total files result w'
      ∧ ∀ encrypted, result = .ok encrypted → Leased t' k key full identitySlot contentSlot :=
  encryptFrom_runs_of_invariant (Leased · k key full identitySlot contentSlot)
    (fun _ h => h.leasedContent) (fun _ material hfree h => h.clear_fill hfree material) h hrun

end Runs

end ModelProtection
