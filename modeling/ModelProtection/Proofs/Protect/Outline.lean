/-
The sizes of a run are known before it.

How long a model document gets depends on what was given and on the sizes of the
files, not on what is drawn or encrypted. So it is that of an outline, in which
zero bytes stand for the GUID and for the ciphertexts. `Fits` says of the outline
that its buffers can be reserved, and from that follows that every buffer of a
run is there and is large enough.
-/
import ModelProtection.Proofs.Protect.Effects
import ModelProtection.Proofs.Text.Boundary
import ModelProtection.Proofs.Time.Line

set_option autoImplicit false

namespace ModelProtection

open Json

/-! ## Names -/

/-- A file is recorded under a name within the bound of names. -/
theorem Path.byteLength_artifactName_le (p : Path) : byteLength p.artifactName ≤ Bound.name :=
  (Bound.cut_truncate p.baseName Bound.name).within

/-! ## Lengths of documents -/

/-- What an artifact adds to the length of a document. -/
def Artifact.extent (a : Artifact) : String × Nat := (a.name, escapedLength a.ciphertext)

namespace ModelDocument

theorem size_artifactJson_congr (position : Nat) {a b : Artifact} (h : a.extent = b.extent) :
    size (pieces (1 + 1) (artifactJson position a)) = size (pieces (1 + 1) (artifactJson position b)) := by
  obtain ⟨hname, hbody⟩ := Prod.ext_iff.1 h
  simp only [Artifact.extent] at hname hbody
  simp only [artifactJson, size_object, size_memberPieces_cons, size_text, hname, hbody]

theorem size_artifacts_congr {as bs : List Artifact}
    (h : as.map Artifact.extent = bs.map Artifact.extent) (first : Bool) (position : Nat) :
    size (elementPieces 1 first ((as.zipIdx position).map entryJson))
      = size (elementPieces 1 first ((bs.zipIdx position).map entryJson)) := by
  -- side by side: the position is in the keys, so it has to be the same on both sides
  induction as generalizing bs first position with
  | nil =>
    cases bs with
    | nil => rfl
    | cons b bs => cases h
  | cons a as ih =>
    cases bs with
    | nil => cases h
    | cons b bs =>
      obtain ⟨hhead, htail⟩ := List.cons.inj h
      have hentry : size (pieces (1 + 1) (entryJson (a, position)))
          = size (pieces (1 + 1) (entryJson (b, position))) := size_artifactJson_congr position hhead
      simp only [List.zipIdx_cons, List.map_cons, size_elementPieces_cons, hentry, ih htail]

theorem size_list_congr (depth : Nat) {l l' : List Json} (hlength : l.length = l'.length)
    (h : size (elementPieces depth true l) = size (elementPieces depth true l')) :
    size (pieces depth (.list l)) = size (pieces depth (.list l')) := by
  cases l with
  | nil =>
    cases l' with
    | nil => rfl
    | cons _ _ => cases hlength
  | cons _ _ =>
    cases l' with
    | nil => cases hlength
    | cons _ _ => simp only [pieces, size_cons, size_append, List.cons_append, h]

/-- Documents that say the same, with artifacts of the same extents, are of one length. -/
theorem length_written_congr {d d' : ModelDocument} (hmetadata : d.metadata = d'.metadata)
    (hcertificate : d.certificate = d'.certificate)
    (hartifacts : d.artifacts.map Artifact.extent = d'.artifacts.map Artifact.extent) :
    d.written.length = d'.written.length := by
  have hlength : d.artifacts.length = d'.artifacts.length := by
    have := congrArg List.length hartifacts
    rwa [List.length_map, List.length_map] at this
  have hlist : size (pieces (0 + 1) (.list (d.artifacts.zipIdx.map entryJson)))
      = size (pieces (0 + 1) (.list (d'.artifacts.zipIdx.map entryJson))) := by
    refine size_list_congr _ ?_ (size_artifacts_congr hartifacts true 0)
    rw [List.length_map, List.length_map, List.length_zipIdx, List.length_zipIdx, hlength]
  change size (pieces 0 d.toJson) = size (pieces 0 d'.toJson)
  simp only [toJson_eq, size_object, size_memberPieces_cons, size_text, escapedLength_canonical,
    hmetadata, hcertificate, hlist]

/-- A capacity that was computed is the sum that it stands for. -/
theorem eq_of_modelCapacity {certificateLength count total capacity : Nat}
    (h : modelCapacity certificateLength count total = .ok capacity) :
    capacity = certificateLength * escapeFactor + (modelTextSize + metadataSize + Guid.textLength)
      + artifactSize * count + total := by
  rw [modelCapacity_eq] at h
  split at h
  · cases h
    rfl
  · cases h

end ModelDocument

/-! ## The outline of a request -/

/-- What stands in a file, and nothing if it cannot be read. -/
def FileTree.contentAt (t : FileTree) (p : Path) : Bytes :=
  match t.read p with
  | .ok content => content
  | .error _ => []

theorem FileTree.contentAt_of_read {t : FileTree} {p : Path} {content : Bytes}
    (h : t.read p = .ok content) : t.contentAt p = content := by
  rw [contentAt, h]

/-- The number of bytes that are taken from a file. -/
def TrailingByte.takenLength (policy : TrailingByte) (files : FileTree) (p : Path) : Nat :=
  policy.plaintextLength (files.contentAt p).length

/-- An artifact of the length that a file gives, with zero bytes for its ciphertext. -/
def TrailingByte.outline (policy : TrailingByte) (files : FileTree) (p : Path) : Artifact where
  name := p.artifactName
  ciphertext := Base64.encode
    (List.replicate (DerivedKeys.saltSize + policy.takenLength files p + Aead.tagSize) 0)

namespace ProtectRequest

/-- A model document of the length that a run writes, with zero bytes for what is drawn or
encrypted. -/
def outline (r : ProtectRequest) (files : FileTree) (certificate : String) : ModelDocument where
  metadata := r.metadata
  guid := ⟨.ofListPadded 16 []⟩
  certificate := certificate
  artifacts := r.inputs.map (r.trailingByte.outline files)

/-- The length of all ciphertexts. -/
def ciphertextLength (r : ProtectRequest) (files : FileTree) : Nat :=
  Artifact.totalLength (r.inputs.map (r.trailingByte.outline files))

/-- The capacities that a run computes can be reserved. -/
structure Fits (r : ProtectRequest) (files : FileTree) (certificate : String) : Prop where
  /-- The buffer for the model document. -/
  document : ∃ capacity ≤ Buffer.mostCapacity,
    modelCapacity (byteLength certificate) r.inputs.length (r.ciphertextLength files) = .ok capacity
  /-- The buffer for the document with its signature. -/
  signed : ∃ capacity ≤ Buffer.mostCapacity,
    Envelope.capacity (r.outline files certificate).written.length = .ok capacity

end ProtectRequest

/-! ## Drafts have the length of their outline -/

section Drafts

variable {w w' : World} {k : Keystore} {key : Octets 32} {full : Prop} {policy : TrailingByte}

theorem TrailingByte.byteLength_outline (policy : TrailingByte) (files : FileTree) (p : Path) :
    byteLength (policy.outline files p).ciphertext = 4 * ((policy.takenLength files p + 34) / 3) := by
  rw [outline, byteLength, Base64.length_textBytes_encode, List.length_replicate]
  simp only [DerivedKeys.saltSize, Aead.tagSize]
  omega

/-- A ciphertext is never escaped, and is as long as the file tells. -/
theorem EncryptsFile.ciphertext_length {file : InputFile} {artifact : Artifact}
    (h : EncryptsFile key policy w file artifact) :
    escapedLength artifact.ciphertext = byteLength artifact.ciphertext
      ∧ byteLength artifact.ciphertext
        = byteLength (policy.outline w.files file.path).ciphertext := by
  obtain ⟨content, body, hread, hbody, hcipher⟩ := h.exists_body
  have hlength : body.length = policy.takenLength w.files file.path + Aead.tagSize := by
    rw [DerivedKeys.length_of_encrypt hbody, TrailingByte.length_plaintext,
      TrailingByte.takenLength, FileTree.contentAt_of_read hread]
  refine ⟨by rw [hcipher, Salted.write, escapedLength_base64], ?_⟩
  rw [hcipher, TrailingByte.byteLength_outline, byteLength, Salted.byteLength_write, hlength,
    Aead.tagSize]

theorem EncryptsFile.extent_eq {file : InputFile} {artifact : Artifact}
    (h : EncryptsFile key policy w file artifact) :
    artifact.extent = (policy.outline w.files file.path).extent := by
  obtain ⟨hescaped, hlength⟩ := h.ciphertext_length
  have houtline : escapedLength (policy.outline w.files file.path).ciphertext
      = byteLength (policy.outline w.files file.path).ciphertext := escapedLength_base64 _
  rw [Artifact.extent, Artifact.extent, hescaped, hlength, houtline, h.name_eq, TrailingByte.outline]

/-- The lengths of the ciphertexts are added up, and every artifact has the extent of its outline. -/
theorem Encrypts.extents_eq {total : Nat} {files : List InputFile} {encrypted : EncryptedFiles}
    (h : Encrypts key policy full w total files (.ok encrypted) w') :
    encrypted.artifacts.map Artifact.extent
        = files.map (fun file => (policy.outline w.files file.path).extent)
      ∧ encrypted.totalLength
        = total + Artifact.totalLength (files.map fun file => policy.outline w.files file.path) := by
  induction files generalizing w total encrypted with
  | nil =>
    cases h
    exact ⟨rfl, rfl⟩
  | cons file files ih =>
    cases h with
    | all _ hfile htotal hfiles =>
      obtain ⟨hextents, hsum⟩ := ih hfiles
      obtain ⟨rfl, -⟩ := Size.add?_eq_some_iff.1 htotal
      refine ⟨?_, ?_⟩
      · rw [List.map_cons, List.map_cons, hfile.extent_eq, hextents, World.files_afterDraw]
      · simp only [List.map_cons, Artifact.totalLength, hsum, hfile.ciphertext_length.2,
          World.files_afterDraw, Nat.add_assoc]

/-- Encrypting fails only where a file cannot be read, if there is a slot, no file is too long and
the sizes fit a word. -/
theorem Encrypts.unreadable {total : Nat} {files : List InputFile} {e : ProtectError}
    (h : Encrypts key policy full w total files (.error e) w') (hfree : ¬ full)
    (hshort : ∀ file ∈ files, Aead.tooLong (policy.takenLength w.files file.path) = false)
    (htotal : total + Artifact.totalLength (files.map fun file => policy.outline w.files file.path)
      < Size.bound) :
    ∃ file ∈ files, ∃ e', w.files.read file.path = .error e' ∧ e = .fileOpen file.path e' := by
  induction files generalizing w total with
  | nil => cases h
  | cons file files ih =>
    rw [List.map_cons, Artifact.totalLength] at htotal
    cases h with
    | first hfile =>
      refine ⟨file, List.mem_cons_self, ?_⟩
      cases hfile with
      | unreadable hread => exact ⟨_, hread, rfl⟩
      | full _ _ hfull => exact absurd hfull hfree
      | @encryption content _ hread _ hencrypt =>
        -- the cipher refuses nothing but length
        have hfile := hshort file List.mem_cons_self
        rw [TrailingByte.takenLength, FileTree.contentAt_of_read hread,
          ← TrailingByte.length_plaintext] at hfile
        obtain ⟨_, hok⟩ := DerivedKeys.encrypt_eq_ok
          (k := .expand key (w.nextRandom DerivedKeys.saltSize) .content) hfile
        rw [hok] at hencrypt
        cases hencrypt
      | @overflow artifact hencrypts _ hnone =>
        -- the sum so far is below the sum over all files
        have hlength := hencrypts.ciphertext_length.2
        have hsome := Size.add?_eq_some_iff.2
          ⟨rfl, show total + byteLength artifact.ciphertext < Size.bound by omega⟩
        rw [hsome] at hnone
        cases hnone
    | later _ hfile hsome hfiles =>
      obtain ⟨rfl, -⟩ := Size.add?_eq_some_iff.1 hsome
      have hlength := hfile.ciphertext_length.2
      obtain ⟨file', hmem, hread⟩ := ih hfiles
        (fun file' hmem => hshort file' (List.mem_cons_of_mem _ hmem))
        (by rw [hlength, World.files_afterDraw]; omega)
      exact ⟨file', List.mem_cons_of_mem _ hmem, hread⟩

end Drafts

end ModelProtection
