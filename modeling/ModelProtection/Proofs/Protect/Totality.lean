/-
Only the world outside can fail.

Of the many checks that come after the validation of a request, those that depend
on what was given cannot fail any more: the request was validated, the keystore
checked its certificate when it was loaded, and the sizes were known beforehand.
What is left is listed in `OutsideFailure`: a keystore that is not there or does
not hold, a certificate at the wrong time, and files that cannot be opened.
-/
import ModelProtection.Proofs.Keystore
import ModelProtection.Proofs.Protect.Capacity

set_option autoImplicit false

namespace ModelProtection

variable {r : ProtectRequest} {w w' : World} {k : Keystore} {key : Octets 32} {full : Prop}

/-! ## Room for the documents -/

namespace ProtectRequest

/-- What is set aside for the model document. -/
def modelRoom (r : ProtectRequest) (files : FileTree) (certificate : String) : Nat :=
  byteLength certificate * escapeFactor + (modelTextSize + metadataSize + Guid.textLength)
    + artifactSize * r.inputs.length + r.ciphertextLength files

variable {files : FileTree} {certificate : String}

theorem Fits.modelRoom_le (h : r.Fits files certificate) :
    r.modelRoom files certificate ≤ Buffer.mostCapacity := by
  obtain ⟨capacity, hmost, hcapacity⟩ := h.document
  rw [modelRoom, ← ModelDocument.eq_of_modelCapacity hcapacity]
  exact hmost

theorem Fits.modelCapacity_eq (h : r.Fits files certificate) :
    modelCapacity (byteLength certificate) r.inputs.length (r.ciphertextLength files)
      = .ok (r.modelRoom files certificate) := by
  obtain ⟨capacity, -, hcapacity⟩ := h.document
  rw [hcapacity, ModelDocument.eq_of_modelCapacity hcapacity, modelRoom]

/-- The outline of a request is within what is set aside for it. -/
theorem length_outline_le (files : FileTree) (certificate : String) (hmetadata : r.metadata.validate = .ok ()) :
    (r.outline files certificate).written.length ≤ r.modelRoom files certificate := by
  have hname : ∀ a ∈ (r.outline files certificate).artifacts, byteLength a.name ≤ Bound.name := by
    intro a ha
    obtain ⟨p, -, rfl⟩ := List.mem_map.1 ha
    exact p.byteLength_artifactName_le
  have hbody : ∀ a ∈ (r.outline files certificate).artifacts,
      Json.escapedLength a.ciphertext = byteLength a.ciphertext := by
    intro a ha
    obtain ⟨p, -, rfl⟩ := List.mem_map.1 ha
    exact escapedLength_base64 _
  have hcount : (r.outline files certificate).artifacts.length = r.inputs.length := List.length_map _
  have hsize := ModelDocument.size_toJson_le (d := r.outline files certificate) hmetadata hname hbody
  rw [hcount] at hsize
  rw [modelRoom, ciphertextLength]
  exact hsize

/-- What takes less than the most that can be reserved fits. -/
theorem fits_of_modelRoom_le (hmetadata : r.metadata.validate = .ok ())
    (h : r.modelRoom files certificate + Envelope.mostTag + Envelope.armourSize
      ≤ Buffer.mostCapacity) : r.Fits files certificate where
  document := by
    have hmost : Buffer.mostCapacity < Size.bound := by decide
    rw [modelRoom] at h
    exact ⟨_, by omega, ModelDocument.modelCapacity_eq_ok (by omega)⟩
  signed := by
    have houtline := length_outline_le files certificate hmetadata
    exact ⟨_, by omega, Envelope.capacity_eq_ok (by omega)⟩

/-- The signed outline is within what can be reserved. -/
theorem Fits.signed_le (h : r.Fits files certificate) (hmetadata : r.metadata.validate = .ok ()) :
    (r.outline files certificate).written.length + Envelope.mostTag + Envelope.armourSize
      ≤ Buffer.mostCapacity := by
  obtain ⟨capacity, hmost, hsigned⟩ := h.signed
  have hroom := h.modelRoom_le
  have houtline := length_outline_le files certificate hmetadata
  -- the document is within its own buffer, so the sum for the signed one is exact
  rw [Envelope.capacity_eq_ok (by omega)] at hsigned
  obtain rfl := Except.ok.inj hsigned
  exact hmost

/-- A license takes less than a model document with a file. -/
theorem license_lt_modelRoom (files : FileTree) (certificate : String) (hinputs : r.inputs ≠ []) :
    byteLength certificate * escapeFactor + licenseFixedSize ≤ r.modelRoom files certificate := by
  have hpos := List.length_pos_iff.2 hinputs
  have hlicense : licenseFixedSize = 3752 := rfl
  have hmodel : modelTextSize + metadataSize + Guid.textLength = 3460 := rfl
  have hartifact : artifactSize = 1616 := rfl
  rw [modelRoom, hartifact]
  omega

end ProtectRequest

/-! ## What can fail -/

/-- A failure of the world outside, seen from the files and the time at the start. -/
inductive OutsideFailure (r : ProtectRequest) (files : FileTree) (now : Instant) : StageError → Prop where
  /-- The keystore cannot be read, or does not hold. -/
  | keystore {e : Keystore.Error} (h : Keystore.load r.keystore (files.read r.keystore) = .error e) :
    OutsideFailure r files now ⟨.loadIdentity, .crypto (.ofKeystore e)⟩
  /-- The certificate is not valid at the time. -/
  | lifetime {k : Keystore} {c : Certificate} {e : Certificate.Error}
    (hload : Keystore.load r.keystore (files.read r.keystore) = .ok k)
    (hparse : Certificate.parse k.certificate = .ok c) (h : c.checkLifetime now = .error e) :
    OutsideFailure r files now ⟨.protectedModel, .crypto (.ofCertificate e)⟩
  /-- A file of the model cannot be read. -/
  | input {p : Path} {e : FileError} (hp : p ∈ r.inputs) (h : files.read p = .error e) :
    OutsideFailure r files now ⟨.protectedModel, .fileOpen p e⟩
  /-- The protected model cannot be written. -/
  | model {e : FileError} (h : files.writable r.protectedModelPath = .error e) :
    OutsideFailure r files now ⟨.protectedModel, .fileOpen r.protectedModelPath e⟩
  /-- The master license cannot be written. -/
  | license {e : FileError} (h : ∀ l, files.writable r.masterLicensePath ≠ .ok l) :
    OutsideFailure r files now ⟨.masterLicense, .fileOpen r.masterLicensePath e⟩

/-- The kinds of failure that are left to the world outside. -/
def StageError.IsOutside (e : StageError) : Prop :=
  (∃ p error, e.error = .fileOpen p error)
  ∨ (e.stage = .loadIdentity ∧ ∃ cause, e.error = .crypto (.failed .keyLoad cause)
      ∨ e.error = .crypto (.failed .certificateVerification cause))
  ∨ (e.stage = .protectedModel ∧ ∃ instant, e.error = .crypto (.ofCertificate (.notYetValid instant))
      ∨ e.error = .crypto (.ofCertificate (.expired instant)))

theorem OutsideFailure.isOutside {files : FileTree} {now : Instant} {e : StageError}
    (h : OutsideFailure r files now e) : e.IsOutside := by
  cases h with
  | @keystore e _ =>
    refine .inr (.inl ⟨rfl, ?_⟩)
    cases e with
    | certificate e => exact ⟨_, .inr rfl⟩
    | _ => exact ⟨_, .inl rfl⟩
  | lifetime _ _ hlife =>
    refine .inr (.inr ⟨rfl, ?_⟩)
    rcases Certificate.of_checkLifetime hlife with ⟨-, rfl⟩ | ⟨-, rfl⟩
    · exact ⟨_, .inl rfl⟩
    · exact ⟨_, .inr rfl⟩
  | input _ _ => exact .inl ⟨_, _, rfl⟩
  | model _ => exact .inl ⟨_, _, rfl⟩
  | license _ => exact .inl ⟨_, _, rfl⟩

theorem FileTree.writable_of_write_error {t : FileTree} {p : Path} {content : Bytes} {e : FileError}
    (h : t.write p content = .error e) : t.writable p = .error e := by
  unfold write at h
  cases hplace : t.writable p with
  | error e' =>
    rw [hplace] at h
    cases h
    rfl
  | ok l =>
    rw [hplace] at h
    cases h

/-! ## The protected model -/

section Model

variable {d : ModelDocument} {total : Nat}

/-- A draft has the length of the outline. -/
theorem DraftsModel.eq_outline
    (h : DraftsModel k key full r.trailingByte (InputFile.ofPaths r.inputs) r.metadata w d total w') :
    d.written.length = (r.outline w.files k.certificate).written.length
      ∧ d.artifacts.length = r.inputs.length ∧ total = r.ciphertextLength w.files := by
  obtain ⟨w₁, hencrypts, -, -⟩ := h.encrypts
  obtain ⟨hextents, htotal⟩ := hencrypts.extents_eq
  rw [World.files_afterTick, map_ofPaths fun p => (r.trailingByte.outline w.files p).extent] at hextents
  rw [World.files_afterTick, map_ofPaths (r.trailingByte.outline w.files)] at htotal
  refine ⟨ModelDocument.length_written_congr h.metadata_eq h.certificate_eq ?_, ?_, ?_⟩
  · rw [hextents, ProtectRequest.outline, List.map_map]
    rfl
  · have hlength := congrArg List.length hextents
    rwa [List.length_map, List.length_map] at hlength
  · rw [ProtectRequest.ciphertextLength, ← Nat.zero_add (Artifact.totalLength _)]
    exact htotal

/-- A draft is written down and signed. -/
theorem DraftsModel.written_ok (hmetadata : r.metadata.validate = .ok ())
    (hfits : r.Fits w.files k.certificate)
    (h : DraftsModel k key full r.trailingByte (InputFile.ofPaths r.inputs) r.metadata w d total w') :
    ∃ capacity, modelCapacity (byteLength d.certificate) d.artifacts.length total = .ok capacity
      ∧ d.toBytes capacity = .ok d.written
      ∧ (Envelope.signed k.seed d.written).encode = .ok (Envelope.signed k.seed d.written).sealedBytes := by
  obtain ⟨hlength, hcount, htotal⟩ := h.eq_outline
  have houtline := ProtectRequest.length_outline_le w.files k.certificate hmetadata
  have hsigned := hfits.signed_le hmetadata
  refine ⟨r.modelRoom w.files k.certificate, ?_, ?_, ?_⟩
  · rw [h.certificate_eq, hcount, htotal, hfits.modelCapacity_eq]
  · refine Json.writeBounded_eq_ok hfits.modelRoom_le ?_
    change d.written.length ≤ _
    omega
  · refine Envelope.encode_eq_ok ?_ ?_
    · rw [Envelope.tag_signed, Hex.length_textBytes_encode, Octets.length_toList]
      decide
    · rw [Envelope.data_signed]
      omega

theorem BuildsModel.outside {e : ProtectError} (hmetadata : r.metadata.validate = .ok ())
    (hload : Keystore.load r.keystore (w.files.read r.keystore) = .ok k) (hfree : ¬ full)
    (hshort : ∀ p ∈ r.inputs, Aead.tooLong (r.trailingByte.takenLength w.files p) = false)
    (hfits : r.Fits w.files k.certificate)
    (h : BuildsModel k key full ⟨r.protectedModelPath, r.trailingByte⟩ (InputFile.ofPaths r.inputs)
      r.metadata w (.error e) w') :
    OutsideFailure r w.files w.present ⟨.protectedModel, e⟩ := by
  obtain ⟨c, hparse, -, hbinds⟩ := Keystore.of_load hload
  have hvouch := Keystore.vouch_of_parse hload hparse w.present
  -- one case for each way a build can fail; those that do not depend on the world are refuted
  cases h with
  | metadata h =>
    rw [hmetadata] at h
    cases h
  | certificate h =>
    rw [hvouch] at h
    cases hlife : c.checkLifetime w.present with
    | error e =>
      rw [hlife] at h
      cases h
      exact .lifetime hload hparse hlife
    | ok _ =>
      rw [hlife] at h
      cases h
  | @foreign c' h hforeign =>
    rw [hvouch] at h
    cases hlife : c.checkLifetime w.present with
    | error e =>
      rw [hlife] at h
      cases h
    | ok _ =>
      rw [hlife] at h
      cases h
      rw [hbinds] at hforeign
      cases hforeign
  | files _ h =>
    have hroom := hfits.modelRoom_le
    have hmost : Buffer.mostCapacity < Size.bound := by decide
    rw [ProtectRequest.modelRoom, ProtectRequest.ciphertextLength] at hroom
    obtain ⟨file, hmem, e', hread, rfl⟩ := h.unreadable hfree
      (fun file hmem => hshort file.path (InputFile.path_mem_of_mem_ofPaths hmem))
      (by
        rw [World.files_afterTick, map_ofPaths (r.trailingByte.outline w.files)]
        omega)
    exact .input (InputFile.path_mem_of_mem_ofPaths hmem) hread
  | capacity hdraft h =>
    obtain ⟨capacity, hcapacity, -⟩ := hdraft.written_ok hmetadata hfits
    rw [hcapacity] at h
    cases h
  | document hdraft hcapacity h =>
    obtain ⟨capacity, hcapacity', hbytes, -⟩ := hdraft.written_ok hmetadata hfits
    rw [hcapacity'] at hcapacity
    cases hcapacity
    rw [hbytes] at h
    cases h
  | signature hdraft hcapacity hbytes h =>
    obtain ⟨-, -, -, hsigned⟩ := hdraft.written_ok hmetadata hfits
    rw [ModelDocument.eq_of_toBytes hbytes, hsigned] at h
    cases h
  | output hdraft _ _ _ h =>
    rw [hdraft.files_eq] at h
    exact .model (FileTree.writable_of_write_error h)

end Model

/-! ## The master license -/

section License

variable {context : ProtectionContext}

theorem DraftsLicense.drafted {d : LicenseDocument} (h : DraftsLicense k key r.licenseGuid context w d) :
    d.Drafted (k.wrapKeys w) key where
  licenseGuid := by
    rw [h.licenseGuid_eq]
    exact h.guid_ok
  creationDate := ⟨w.present, h.creationDate_eq⟩
  wrappedKey := by
    obtain ⟨body, hbody, hwrapped⟩ := h.wraps
    exact ⟨_, body, hbody, hwrapped⟩

theorem DraftsLicense.written_ok {d : LicenseDocument} (h : DraftsLicense k key r.licenseGuid context w d)
    (hroom : byteLength context.certificate * escapeFactor + licenseFixedSize ≤ Buffer.mostCapacity) :
    d.toBytes = .ok d.written
      ∧ (Envelope.authenticated (k.wrapKeys w) d.written).encode
        = .ok (Envelope.authenticated (k.wrapKeys w) d.written).sealedBytes := by
  rw [← h.certificate_eq] at hroom
  exact h.drafted.written_ok hroom

/-- A license about a model that was built fails only where it cannot be written. -/
theorem BuildsLicense.outside {e : ProtectError} {guid : Guid} {hash : ModelHash}
    (hguid : ∃ g, Guid.parse r.licenseGuid = .ok g) (hcontext : context.require = .ok (guid, hash))
    (hfree : ¬ full)
    (hroom : byteLength context.certificate * escapeFactor + licenseFixedSize ≤ Buffer.mostCapacity)
    (h : BuildsLicense k key full r.masterLicensePath r.licenseGuid context w (.error e) w') :
    ∃ e', e = .fileOpen r.masterLicensePath e' ∧ w.files.writable r.masterLicensePath = .error e' := by
  cases h with
  | guid h =>
    obtain ⟨g, hg⟩ := hguid
    rw [hg] at h
    cases h
  | context h =>
    rw [hcontext] at h
    cases h
  | full _ hfull => exact absurd hfull hfree
  | document hdraft h =>
    rw [(hdraft.written_ok hroom).1] at h
    cases h
  | code hdraft hbytes h =>
    rw [LicenseDocument.eq_of_toBytes hbytes, (hdraft.written_ok hroom).2] at h
    cases h
  | output _ _ _ h => exact ⟨_, rfl, FileTree.writable_of_write_error h⟩

end License

/-! ## Everything -/

/-- The license is told everything about a model with a certificate. -/
theorem ModelDocument.require_context {d : ModelDocument} {bytes : Bytes}
    (h : byteLength d.certificate ≠ 0) :
    (d.context bytes).require = .ok (d.guid, ⟨Sha2.sha256 bytes⟩) := by
  simp only [ProtectionContext.require, ProtectionContext.certificateLength, context, h, if_false,
    bind, Except.bind, pure, Except.pure]

/-- A run of a valid request with three free slots fails only by the world outside. -/
theorem Protects.outside {live : Nat} {e : StageError} (hvalid : r.validate = .ok ())
    (hlive : live ≤ 61)
    (hshort : ∀ p ∈ r.inputs, Aead.tooLong (r.trailingByte.takenLength w.files p) = false)
    (hfits : ∀ k, Keystore.load r.keystore (w.files.read r.keystore) = .ok k →
      r.Fits w.files k.certificate)
    (h : Protects r live w (.error e) w') : OutsideFailure r w.files w.present e := by
  obtain ⟨hinputs, hmetadata, hguid⟩ := ProtectRequest.of_validate hvalid
  have hmost : SlotTable.mostLive = 64 := rfl
  have hfree : ¬ SlotTable.mostLive < live + 3 := by omega
  cases h with
  | invalid h =>
    rw [hvalid] at h
    cases h
  | identityFull _ hfull => omega
  | identity _ _ h => exact .keystore h
  | contentFull _ _ hfull => omega
  | @model k _ _ _ hload hmodel =>
    exact BuildsModel.outside (w := w.afterDraw 32) hmetadata hload hfree hshort (hfits k hload) hmodel
  | @license k _ signed _ _ _ _ hload hmodel hlicense =>
    obtain ⟨d, total, w₂, hdraft, rfl, -, hwrite, -⟩ := hmodel.of_ok
    have hcertificate := Keystore.certificate_length_ne_zero hload
    rw [← hdraft.certificate_eq] at hcertificate
    -- a model document with a file takes more than a license, and it did fit
    have hroom := Nat.le_trans (ProtectRequest.license_lt_modelRoom w.files k.certificate hinputs)
      (hfits k hload).modelRoom_le
    rw [← hdraft.certificate_eq] at hroom
    obtain ⟨e', rfl, hplace⟩ := hlicense.outside hguid (ModelDocument.require_context hcertificate)
      hfree hroom
    refine .license fun l hl => ?_
    -- the model was written where no directory stands, so the license still leads to the same place
    obtain ⟨l', hl', htree⟩ := FileTree.write_eq_ok_iff.1 hwrite
    have hsame := FileTree.sameDirectories_of_writable hl' signed
    rw [htree, (FileTree.writable_eq_ok_iff_of_sameDirectories hsame).2 hl] at hplace
    cases hplace

/-- **After validation only the world outside can fail.** A valid request on a service with three free
slots, with files that are not too long and sizes that fit, ends well, or a file cannot be opened, or
the identity cannot be loaded, or its certificate is not valid now. -/
theorem protect_fails_outside (r : ProtectRequest) (t : SlotTable) (w : World)
    (hvalid : r.validate = .ok ()) (hlive : t.liveCount ≤ 61)
    (hshort : ∀ p ∈ r.inputs, Aead.tooLong (r.trailingByte.takenLength w.files p) = false)
    (hfits : ∀ k, Keystore.load r.keystore (w.files.read r.keystore) = .ok k →
      r.Fits w.files k.certificate) :
    match (protect r : OnWorld (Except StageError ProtectOutcome)) t w with
    | ((.ok _, _), _) => True
    | ((.error e, _), _) => e.IsOutside := by
  obtain ⟨result, t', w', hrun, hprotects, -⟩ := protect_runs r t w
  rw [hrun]
  cases result with
  | ok _ => trivial
  | error e => exact (hprotects.outside hvalid hlive hshort hfits).isOutside

/-- A request for one file under the sample identity, with both documents at one path. -/
def sampleRequest : ProtectRequest where
  inputs := [.ofString "m"]
  metadata := ⟨"model", "a model", "1"⟩
  keystore := .ofString "k"
  protectedModel := .ofString "out"
  masterLicense := .ofString "out"
  licenseGuid := "00000000-0000-0000-0000-000000000000"

/-- A world with that file and the sample keystore, at the start of 1970. -/
def sampleWorld : World where
  files := ⟨[([textBytes "m"], .file [1, 2, 3]), ([textBytes "k"], .file Keystore.sample.toBytes)], []⟩
  random _ := 0
  clock _ := .epoch

theorem validate_sampleRequest : sampleRequest.validate = .ok () := eq_ok_of_isOk (by decide +kernel)

/-- The sample has room for everything. -/
theorem fits_sample {k : Keystore}
    (h : Keystore.load sampleRequest.keystore (sampleWorld.files.read sampleRequest.keystore) = .ok k) :
    sampleRequest.Fits sampleWorld.files k.certificate := by
  have hread : sampleWorld.files.read sampleRequest.keystore = .ok Keystore.sample.toBytes := rfl
  rw [hread] at h
  rw [Keystore.certificate_of_load_toBytes h]
  refine ProtectRequest.fits_of_modelRoom_le (ProtectRequest.of_validate validate_sampleRequest).2.1 ?_
  have hcertificate := Keystore.byteLength_sample_le
  have hciphertexts : sampleRequest.ciphertextLength sampleWorld.files = 48 := by
    rw [ProtectRequest.ciphertextLength]
    simp only [sampleRequest, List.map_cons, List.map_nil, Artifact.totalLength,
      TrailingByte.byteLength_outline]
    rfl
  have hmost : 1000000 < Buffer.mostCapacity := by decide
  have hsmall : Envelope.mostTag + Envelope.armourSize = 224 := rfl
  have hmodel : modelTextSize + metadataSize + Guid.textLength = 3460 := rfl
  have hartifact : artifactSize * sampleRequest.inputs.length = 1616 := rfl
  have hfactor : escapeFactor = 6 := rfl
  rw [ProtectRequest.modelRoom, hciphertexts, hartifact, hmodel, hfactor]
  -- the certificate itself must not be evaluated: it holds a signature
  generalize byteLength Keystore.sample.certificate = size at hcertificate ⊢
  omega

theorem short_sample : ∀ p ∈ sampleRequest.inputs,
    Aead.tooLong (sampleRequest.trailingByte.takenLength sampleWorld.files p) = false := by
  intro p hp
  cases List.mem_singleton.1 hp
  rfl

theorem protect_fails_outside_sample :
    match (protect sampleRequest : OnWorld (Except StageError ProtectOutcome)) {} sampleWorld with
    | ((.ok _, _), _) => True
    | ((.error e, _), _) => e.IsOutside :=
  protect_fails_outside sampleRequest {} sampleWorld validate_sampleRequest (by decide)
    short_sample fun _ => fits_sample

end ModelProtection
