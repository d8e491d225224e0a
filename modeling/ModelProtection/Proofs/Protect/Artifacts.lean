/-
Encrypting gives one artifact for each file.

Nothing but the world outside stands in the way of encrypting files that can be
read: the slot of the derived keys is free again after each file, so one is enough
for all, and how long the ciphertexts get is known from the files alone. Whatever
could go wrong is in the list of `Encrypts`, and for such files every entry but the
last is refuted (`Encrypts.unreadable`).

A file that cannot be read ends it all, and what was encrypted before is not given
out.
-/
import ModelProtection.Proofs.Crypto.RoundTrip
import ModelProtection.Proofs.Protect.Draws
import ModelProtection.Proofs.Protect.Keeping

set_option autoImplicit false

namespace ModelProtection

variable {t t' t₁ : SlotTable} {w w' w₁ : World} {key : Octets 32} {full : Prop}
  {policy : TrailingByte} {slot : SlotId} {files : List InputFile} {encrypted : EncryptedFiles}

/-! ## What it takes and what it gives -/

/-- The length of the ciphertexts of some files, in Base64: a salt, what is taken from the file and a
tag are 32 bytes more than what is taken, and every three bytes that are begun take four symbols. -/
def TrailingByte.ciphertextLength (policy : TrailingByte) (tree : FileTree) : List InputFile → Nat
  | [] => 0
  | file :: files =>
    4 * ((32 + policy.takenLength tree file.path + 2) / 3) + policy.ciphertextLength tree files

/-- Files can be read, none is too long for the cipher, and the length of the ciphertexts is within a
word. -/
structure Encryptable (policy : TrailingByte) (tree : FileTree) (files : List InputFile) : Prop where
  /-- Each file can be read and is not too long. -/
  readable : ∀ file ∈ files, ∃ bytes, tree.read file.path = .ok bytes
    ∧ Aead.tooLong (policy.plaintextLength bytes.length) = false
  /-- The ciphertexts are within a word. -/
  fits : policy.ciphertextLength tree files < Size.bound

/-- From a table on, as long as a slot is live, a text is decrypted under it to a message. -/
def SlotTable.Decrypts (t : SlotTable) (slot : SlotId) (text : String) (message : Bytes) : Prop :=
  ∀ (later : List PlacedCall) (w : World), (t.after later).material? slot ≠ none →
    PlacedCall.answer ⟨.decrypt slot text, w⟩ (t.after later) = .ok (.bytes message)

/-- Files have been encrypted under a slot, all of them and in their order. -/
structure EncryptsEach (t t' : SlotTable) (slot : SlotId) (policy : TrailingByte) (tree : FileTree)
    (files : List InputFile) (encrypted : EncryptedFiles) : Prop where
  /-- The slots are what they were. -/
  live_eq : t'.live = t.live
  /-- There is an artifact for each file and no other. -/
  length_eq : encrypted.artifacts.length = files.length
  /-- At each place there is the artifact of the file at that place. -/
  artifact : ∀ (i : Nat) (file : InputFile), files[i]? = some file →
    ∃ artifact bytes, encrypted.artifacts[i]? = some artifact ∧ tree.read file.path = .ok bytes
      ∧ artifact.name = file.path.artifactName
      ∧ t'.Decrypts slot artifact.ciphertext (bytes.take (policy.plaintextLength bytes.length))
  /-- The total is that of the ciphertexts. -/
  total_eq : encrypted.totalLength = Artifact.totalLength encrypted.artifacts
  /-- The total is known from the files. -/
  total_eq_files : encrypted.totalLength = policy.ciphertextLength tree files

/-! ## The total -/

/-- The lengths of the outlines are those of the ciphertexts. -/
theorem TrailingByte.totalLength_outline (policy : TrailingByte) (tree : FileTree)
    (files : List InputFile) :
    Artifact.totalLength (files.map fun file => policy.outline tree file.path)
      = policy.ciphertextLength tree files := by
  induction files with
  | nil => rfl
  | cons file files ih =>
    rw [List.map_cons, Artifact.totalLength, ih, policy.byteLength_outline, ciphertextLength]
    omega

theorem Encrypts.totalLength_eq {total : Nat}
    (h : Encrypts key policy full w total files (.ok encrypted) w') :
    encrypted.totalLength = total + Artifact.totalLength encrypted.artifacts := by
  induction files generalizing w total encrypted with
  | nil =>
    cases h
    rfl
  | cons file files ih =>
    cases h with
    | all _ _ htotal hfiles =>
      obtain ⟨rfl, -⟩ := Size.add?_eq_some_iff.1 htotal
      rw [ih hfiles, Artifact.totalLength, Nat.add_assoc]

/-! ## All files -/

/-- What carries a message is decrypted to it as long as the slot of the key is live. -/
theorem LeasedContent.decrypts (h : LeasedContent t key full slot) {salt : Octets DerivedKeys.saltSize}
    {message : Bytes} {text : String} (hcarries : Salted.Carries key .content salt message text) :
    t.Decrypts slot text message := by
  intro later w hlive
  have hslot := SlotTable.material?_after_of_live later h.content_le hlive
  rw [h.content] at hslot
  exact (PlacedCall.decrypt_eq_ok_iff hslot).2 ⟨salt, hcarries⟩

/-- Files that can be encrypted are. -/
theorem Encryptable.exists_run (h : Encryptable policy w.files files)
    (hleased : LeasedContent t key full slot) (hfree : ¬ full) :
    ∃ encrypted t' w',
      Runs (encryptAll ⟨slot, .content, false⟩ policy files) t w (.ok encrypted) t' w' := by
  obtain ⟨result, t', w', hrun⟩ :=
    Runs.exists_result (encryptAll (m := OnWorld) ⟨slot, .content, false⟩ policy files) t w
  cases result with
  | ok encrypted => exact ⟨encrypted, t', w', hrun⟩
  | error e =>
    have hshort : ∀ file ∈ files, Aead.tooLong (policy.takenLength w.files file.path) = false := by
      intro file hfile
      obtain ⟨bytes, hread, hbytes⟩ := h.readable file hfile
      rw [TrailingByte.takenLength, FileTree.contentAt_of_read hread]
      exact hbytes
    have hfits := h.fits
    rw [← policy.totalLength_outline, ← Nat.zero_add (Artifact.totalLength _)] at hfits
    obtain ⟨file, hfile, e', hread, -⟩ :=
      (hleased.encryptFrom_runs hrun).1.unreadable hfree hshort hfits
    -- the only failure that is left is one of reading
    obtain ⟨bytes, hread', -⟩ := h.readable file hfile
    rw [hread] at hread'
    cases hread'

/-- What was encrypted is complete. -/
theorem LeasedContent.encryptsEach (h : LeasedContent t key full slot) (ht : t.WellFormed)
    (hrun : Runs (encryptAll ⟨slot, .content, false⟩ policy files) t w (.ok encrypted) t' w') :
    EncryptsEach t t' slot policy w.files files encrypted := by
  obtain ⟨hencrypts, hleased⟩ := h.encryptFrom_runs hrun
  have hnames := hencrypts.names_eq
  obtain ⟨salts, -, -, hsalts⟩ := hencrypts.exists_salts
  refine ⟨(KeepsSlots.encryptAll _ policy files ht hrun).live_eq, ?_, ?_, ?_, ?_⟩
  · have hlength := congrArg List.length hnames
    rwa [List.length_map, List.length_map] at hlength
  · intro i file hfile
    obtain ⟨salt, artifact, bytes, body, -, hartifact, hread, hbody, hcipher⟩ := hsalts i file hfile
    refine ⟨artifact, bytes, hartifact, hread, ?_, ?_⟩
    · have hname := congrArg (·[i]?) hnames
      simp only [List.getElem?_map, hartifact, hfile, Option.map_some, Option.some.injEq] at hname
      exact hname
    · rw [hcipher]
      exact (hleased encrypted rfl).decrypts (Salted.carries_write hbody)
  · rw [hencrypts.totalLength_eq, Nat.zero_add]
  · rw [hencrypts.extents_eq.2, Nat.zero_add, policy.totalLength_outline]

/-! ## A file that cannot be read -/

/-- Files that are encrypted do not keep those after them from failing, and then nothing is given. -/
theorem encryptFrom_append {content : KeyLease} {total : Nat} {rest : List InputFile} {e : ProtectError}
    (h : Runs (encryptFrom content policy total files) t w (.ok encrypted) t₁ w₁)
    (hrest : Runs (encryptFrom content policy encrypted.totalLength rest) t₁ w₁ (.error e) t' w') :
    Runs (encryptFrom content policy total (files ++ rest)) t w (.error e) t' w' := by
  induction files generalizing t w total encrypted with
  | nil =>
    rw [encryptFrom] at h
    obtain ⟨hok, rfl, rfl⟩ := h.pure
    cases hok
    exact hrest
  | cons file files ih =>
    rw [encryptFrom] at h
    rw [List.cons_append, encryptFrom]
    rcases h.bind with ⟨_, hresult, -⟩ | ⟨⟨artifact, total'⟩, t₂, w₂, hfile, hgo⟩
    · cases hresult
    refine hfile.bind_of_ok ?_
    rcases hgo.bind with ⟨_, hresult, -⟩ | ⟨encrypted', t₃, w₃, hfiles, hdone⟩
    · cases hresult
    -- the rest starts from the total of the files before it
    obtain ⟨hok, rfl, rfl⟩ := hdone.pure
    cases hok
    exact (ih hfiles hrest).bind_of_error

/-- **Encrypting is complete and keeps the order.** On a service with one free slot, under a content key
in a slot, files that can be read, that are not too long and whose ciphertexts are within a word are all
encrypted, however many they are. There is an artifact for each, at the same place, under the name of
the file and decrypted to what was taken from the file; and the total is the length of the ciphertexts.
If a file cannot be read and those before it are encrypted, then that is the failure, whatever comes
after it. -/
theorem encryptAll_complete (past : List PlacedCall) (slot : SlotId) (key : Octets 32)
    (policy : TrailingByte) (w : World) (hroom : (SlotTable.after {} past).HasRoom 1)
    (hslot : (SlotTable.after {} past).material? slot = some (.content key)) :
    let t := SlotTable.after {} past
    let encrypting : List InputFile → WorkflowT OnWorld EncryptedFiles :=
      encryptAll ⟨slot, .content, false⟩ policy
    (∀ files : List InputFile, Encryptable policy w.files files →
        ∃ encrypted t' w', Runs (encrypting files) t w (.ok encrypted) t' w'
          ∧ EncryptsEach t t' slot policy w.files files encrypted)
      ∧ ∀ (before : List InputFile) (file : InputFile) (rest : List InputFile) (e : FileError)
          (encrypted : EncryptedFiles) (t' : SlotTable) (w' : World),
        Runs (encrypting before) t w (.ok encrypted) t' w' → w.files.read file.path = .error e →
        Runs (encrypting (before ++ file :: rest)) t w (.error (.fileOpen file.path e)) t' w' := by
  intro t encrypting
  have ht : t.WellFormed := SlotTable.after_wellFormed .empty past
  have hcounted : slot.number ≤ t.issued := by
    apply SlotTable.number_le_of_live ht
    rw [hslot]
    exact Option.some_ne_none _
  have hleased : LeasedContent t key False slot :=
    ⟨hroom.1, hslot, hcounted, iff_of_false not_false (Nat.not_lt_of_le hroom.2)⟩
  refine ⟨?_, ?_⟩
  · intro files hfiles
    obtain ⟨encrypted, t', w', hrun⟩ := hfiles.exists_run hleased not_false
    exact ⟨encrypted, t', w', hrun, hleased.encryptsEach ht hrun⟩
  · intro before file rest e encrypted t' w' hbefore hread
    -- encrypting does not touch the files, so the file is still one that cannot be read
    rw [← (hleased.encryptFrom_runs hbefore).1.files_eq] at hread
    exact encryptFrom_append hbefore (Runs.readInput_error hread).bind_of_error.bind_of_error

/-- A hundred files of three bytes are encrypted under the first content key of a service, each without
its last byte, and a file that is not there ends that. -/
theorem encryptAll_complete_sample :
    let t := SlotTable.after {} [⟨.initialise, .bare⟩, ⟨.generateContentKey 32, .bare⟩]
    let encrypting : List InputFile → WorkflowT OnWorld EncryptedFiles :=
      encryptAll ⟨⟨1⟩, .content, false⟩ .strip
    ∃ encrypted t' w',
      Runs (encrypting (List.replicate 100 ⟨.ofString "m", 0⟩)) t sampleWorld (.ok encrypted) t' w'
      ∧ encrypted.artifacts.length = 100 ∧ encrypted.totalLength = 4800
      ∧ Runs (encrypting (List.replicate 100 ⟨.ofString "m", 0⟩ ++ [⟨.ofString "n", 1⟩])) t sampleWorld
        (.error (.fileOpen (.ofString "n") .notFound)) t' w' := by
  intro t encrypting
  have hroom : t.HasRoom 1 := ⟨rfl, by decide⟩
  have hslot : t.material? ⟨1⟩ = some (.content (World.bare.nextRandom 32)) := rfl
  have hlength : TrailingByte.ciphertextLength .strip sampleWorld.files
      (List.replicate 100 ⟨.ofString "m", 0⟩) = 4800 := by decide
  have hfiles : Encryptable .strip sampleWorld.files (List.replicate 100 ⟨.ofString "m", 0⟩) := {
    readable := by
      intro file hfile
      rw [List.eq_of_mem_replicate hfile]
      exact ⟨[1, 2, 3], rfl, rfl⟩
    fits := by
      rw [hlength]
      decide }
  have hmissing : sampleWorld.files.read (.ofString "n") = .error .notFound := rfl
  obtain ⟨hall, hstops⟩ := encryptAll_complete _ ⟨1⟩ _ .strip sampleWorld hroom hslot
  obtain ⟨encrypted, t', w', hrun, heach⟩ := hall _ hfiles
  have hstopped := hstops _ ⟨.ofString "n", 1⟩ [] _ _ _ _ hrun hmissing
  refine ⟨encrypted, t', w', hrun, ?_, heach.total_eq_files.trans hlength, hstopped⟩
  rw [heach.length_eq, List.length_replicate]

end ModelProtection
