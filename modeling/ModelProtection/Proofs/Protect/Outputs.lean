/-
What a run that succeeds leaves on disk.

A run that succeeds has written two files, first the model and then the license,
each at the place to which its path leads. Nothing compares the two paths, so the
license replaces the model where both lead to one place. Everywhere else the
files are what they were.
-/
import ModelProtection.Proofs.Protect.Totality

set_option autoImplicit false

namespace ModelProtection

variable {r : ProtectRequest} {live : Nat} {w w' : World} {outcome : ProtectOutcome}

/-! ## What was written -/

/-- What is found in the file of a master license. -/
structure OpensLicense (r : ProtectRequest) (k : Keystore) (d : ModelDocument) (l : LicenseDocument)
    (keys : DerivedKeys) (bytes : Bytes) : Prop where
  /-- The file is the whole document with its code. -/
  opens : Envelope.decode bytes = .ok (Envelope.authenticated keys l.written)
  /-- The document can be read. -/
  spells : Json.parse l.written = .ok l.toJson
  /-- The code is made with the key of the identity and the salt of the wrapped key. -/
  keys_eq : ∃ salt body, keys = .expand k.seed salt .wrap ∧ l.wrappedKey = Salted.write ⟨salt, body⟩
  /-- The license names the model by its digest. -/
  modelHash_eq : l.modelHash = ⟨Sha2.sha256 d.written⟩
  /-- The license names the model by its GUID. -/
  modelGuid_eq : l.modelGuid = d.guid
  /-- The license carries the certificate of the model. -/
  certificate_eq : l.certificate = d.certificate
  /-- The GUID of the license is recorded as it was given. -/
  licenseGuid_eq : l.licenseGuid = r.licenseGuid

/-- A run has made a model and a license of the files, under an identity and a content key, and has
written both. -/
structure Delivers (r : ProtectRequest) (w w' : World) (outcome : ProtectOutcome) (k : Keystore)
    (key : Octets 32) (d : ModelDocument) (l : LicenseDocument) (keys : DerivedKeys) : Prop where
  /-- The identity is the one in the keystore. -/
  identity : Keystore.load r.keystore (w.files.read r.keystore) = .ok k
  /-- The content key is what was drawn first. -/
  key_eq : key = w.nextRandom 32
  /-- The model is made of the files as they were before, with what was drawn after the key. -/
  drafts : ∃ full total w₁, DraftsModel k key full r.trailingByte (InputFile.ofPaths r.inputs) r.metadata
    (w.afterDraw 32) d total w₁
  /-- The license carries the content key. -/
  wraps : ∃ salt body, keys = .expand k.seed salt .wrap ∧ keys.encrypt key.toList = .ok body
    ∧ l.wrappedKey = Salted.write ⟨salt, body⟩
  /-- The model is complete. -/
  model : OpensModel r k d (Envelope.signed k.seed d.written).sealedBytes
  /-- The license is complete. -/
  license : OpensLicense r k d l keys (Envelope.authenticated keys l.written).sealedBytes
  /-- The model was written, and then the license. -/
  writes : ∃ tree,
    w.files.write outcome.protectedModel (Envelope.signed k.seed d.written).sealedBytes = .ok tree
      ∧ tree.write outcome.masterLicense (Envelope.authenticated keys l.written).sealedBytes
        = .ok w'.files
  /-- The outcome names the model. -/
  outcome_eq : outcome.modelHash = ⟨Sha2.sha256 d.written⟩ ∧ outcome.modelGuid = d.guid
  /-- The outcome names the files. -/
  paths_eq : outcome.protectedModel = r.protectedModelPath ∧ outcome.masterLicense = r.masterLicensePath

/-- What a license is told about a model is what the model is. -/
theorem ModelDocument.eq_of_require {d : ModelDocument} {bytes : Bytes} {guid : Guid} {hash : ModelHash}
    (h : (d.context bytes).require = .ok (guid, hash)) :
    guid = d.guid ∧ hash = ⟨Sha2.sha256 bytes⟩ := by
  rw [ProtectionContext.require] at h
  split at h
  · cases h
  · cases h
    exact ⟨rfl, rfl⟩

theorem Protects.delivers (h : Protects r live w (.ok outcome) w') :
    ∃ k key d l keys, Delivers r w w' outcome k key d l keys := by
  cases h with
  | @done k _ _ _ _ _ _ w₁ _ _ hload hmodel hlicense hcontext _ =>
    obtain ⟨d, total, w₂, hdraft, rfl, rfl, hwrite, -⟩ := hmodel.of_ok
    obtain ⟨l, hlicensed, rfl, hwrite', -⟩ := hlicense.of_ok
    -- the license, the outcome and the model agree because all three were told the same context
    obtain ⟨hguid, hhash⟩ := ModelDocument.eq_of_require hlicensed.context_eq
    obtain ⟨rfl, rfl⟩ := ModelDocument.eq_of_require hcontext
    obtain ⟨body, hbody, hwrapped⟩ := hlicensed.wraps
    refine ⟨k, w.nextRandom 32, d, l, k.wrapKeys w₁, ?_⟩
    exact {
      identity := hload
      key_eq := rfl
      drafts := ⟨_, total, w₂, hdraft⟩
      wraps := ⟨_, body, rfl, hbody, hwrapped⟩
      model := hdraft.opensModel
      license := {
        opens := Envelope.decode_sealedBytes (Envelope.isTag_authenticated _ _)
        spells := Json.parse_pretty _
        keys_eq := ⟨_, body, rfl, hwrapped⟩
        modelHash_eq := hhash
        modelGuid_eq := hguid
        certificate_eq := hlicensed.certificate_eq
        licenseGuid_eq := hlicensed.licenseGuid_eq }
      writes := ⟨_, hwrite, hwrite'⟩
      outcome_eq := ⟨rfl, rfl⟩
      paths_eq := ⟨rfl, rfl⟩ }

/-! ## What is on disk -/

/-- Both documents are where their paths lead, the license last, and everything else is as it was. -/
structure LeavesBoth (r : ProtectRequest) (w w' : World) (outcome : ProtectOutcome) (k : Keystore)
    (d : ModelDocument) (l : LicenseDocument) (keys : DerivedKeys) (place place' : Location) :
    Prop where
  /-- The identity is the one in the keystore. -/
  identity : Keystore.load r.keystore (w.files.read r.keystore) = .ok k
  /-- The outcome names the model by its digest. -/
  modelHash_eq : outcome.modelHash = ⟨Sha2.sha256 d.written⟩
  /-- The outcome names the model by its GUID. -/
  modelGuid_eq : outcome.modelGuid = d.guid
  /-- The paths are those that were asked for. -/
  paths_eq : outcome.protectedModel = r.protectedModelPath ∧ outcome.masterLicense = r.masterLicensePath
  /-- The model was written at a place. -/
  modelPlace : w.files.writable outcome.protectedModel = .ok place
  /-- The license was written at a place. -/
  licensePlace : w.files.writable outcome.masterLicense = .ok place'
  /-- The whole license is at its path. -/
  license : ∃ bytes, w'.files.read outcome.masterLicense = .ok bytes ∧ OpensLicense r k d l keys bytes
  /-- The whole model is at its path, if that is another place. -/
  model : place ≠ place' →
    ∃ bytes, w'.files.read outcome.protectedModel = .ok bytes ∧ OpensModel r k d bytes
  /-- If it is the same place, only the license is there. -/
  overwritten : place = place' →
    w'.files.read outcome.protectedModel = w'.files.read outcome.masterLicense
  /-- Everything else is as it was. -/
  frame : ∀ m, m ≠ place → m ≠ place' → w'.files.node? m = w.files.node? m

theorem Delivers.leavesBoth {k : Keystore} {key : Octets 32} {d : ModelDocument} {l : LicenseDocument}
    {keys : DerivedKeys} (h : Delivers r w w' outcome k key d l keys) :
    ∃ place place', LeavesBoth r w w' outcome k d l keys place place' := by
  obtain ⟨tree, hmodel, hlicense⟩ := h.writes
  obtain ⟨place, place', hplace, hplace', hread, hread', hframe⟩ := FileTree.write_write hmodel hlicense
  refine ⟨place, place', h.identity, h.outcome_eq.1, h.outcome_eq.2, h.paths_eq, hplace, hplace',
    ⟨_, hread', h.license⟩, ?_, ?_, hframe⟩
  · intro hne
    rw [if_neg hne] at hread
    exact ⟨_, hread, h.model⟩
  · intro heq
    rw [if_pos heq] at hread
    rw [hread, hread']

/-- **A run that succeeds has written both documents.** The license is complete at its path, the model
is complete at its own unless both paths lead to one place, and everything else is as it was. -/
theorem protect_success_outputs (r : ProtectRequest) (t : SlotTable) (w : World) :
    match (protect r : OnWorld (Except StageError ProtectOutcome)) t w with
    | ((.error _, _), _) => True
    | ((.ok outcome, _), w') =>
      ∃ k d l keys place place', LeavesBoth r w w' outcome k d l keys place place' := by
  obtain ⟨result, t', w', hrun, hprotects, -⟩ := protect_runs r t w
  rw [hrun]
  cases result with
  | error _ => trivial
  | ok outcome =>
    obtain ⟨k, key, d, l, keys, hdelivers⟩ := hprotects.delivers
    exact ⟨k, d, l, keys, hdelivers.leavesBoth⟩

/-- The sample request with its documents at other paths. -/
def sampleRequestAt (model license : Path) : ProtectRequest :=
  { sampleRequest with protectedModel := model, masterLicense := license }

/-- The sample run succeeds wherever its documents can be written. -/
theorem protect_sampleRequestAt_ok {model license : Path} {place place' : Location}
    (hvalid : (sampleRequestAt model license).validate = .ok ())
    (hmodel : sampleWorld.files.writable model = .ok place)
    (hlicense : sampleWorld.files.writable license = .ok place') :
    ∃ outcome t' w', (protect (sampleRequestAt model license) :
          OnWorld (Except StageError ProtectOutcome)) {} sampleWorld = ((.ok outcome, t'), w')
      ∧ Protects (sampleRequestAt model license) 0 sampleWorld (.ok outcome) w' := by
  obtain ⟨result, t', w', hrun, hprotects, -⟩ :=
    protect_runs (sampleRequestAt model license) {} sampleWorld
  cases result with
  | ok outcome => exact ⟨outcome, t', w', hrun, hprotects⟩
  | error e =>
    have hload : Keystore.load (sampleRequestAt model license).keystore
        (sampleWorld.files.read (sampleRequestAt model license).keystore) = .ok .sample :=
      Keystore.load_sample _
    -- what a request takes does not depend on where its documents go
    have hfits : ∀ k, Keystore.load sampleRequest.keystore
          (sampleWorld.files.read sampleRequest.keystore) = .ok k →
        (sampleRequestAt model license).Fits sampleWorld.files k.certificate :=
      fun _ h => ⟨(fits_sample h).document, (fits_sample h).signed⟩
    -- nothing outside stands in the way
    cases hprotects.outside hvalid (by decide) short_sample hfits with
    | keystore h =>
      rw [hload] at h
      cases h
    | lifetime hload' hparse h =>
      rw [hload] at hload'
      cases hload'
      rw [Keystore.parse_sample] at hparse
      cases hparse
      cases h
    | input hp h =>
      cases List.mem_singleton.1 hp
      cases h
    | model h => cases hmodel.symm.trans h
    | license h => exact absurd hlicense (h _)

/-- The sample run, in which both paths are the same, succeeds. -/
theorem protect_sample_ok :
    ∃ outcome t' w', (protect sampleRequest : OnWorld (Except StageError ProtectOutcome)) {} sampleWorld
        = ((.ok outcome, t'), w')
      ∧ Protects sampleRequest 0 sampleWorld (.ok outcome) w' := by
  have hplace : sampleWorld.files.writable (.ofString "out") = .ok [textBytes "out"] := rfl
  exact protect_sampleRequestAt_ok validate_sampleRequest hplace hplace

/-- With both documents at one path, a run succeeds and there is no signed model at that path. -/
theorem protect_sample_overwrites :
    ∃ outcome t' w', (protect sampleRequest : OnWorld (Except StageError ProtectOutcome)) {} sampleWorld
        = ((.ok outcome, t'), w')
      ∧ ¬ ∃ bytes e, w'.files.read outcome.protectedModel = .ok bytes ∧ Envelope.decode bytes = .ok e
        ∧ e.kind = .signature ∧ outcome.modelHash = ⟨Sha2.sha256 e.data⟩ := by
  obtain ⟨outcome, t', w', hrun, hprotects⟩ := protect_sample_ok
  refine ⟨outcome, t', w', hrun, ?_⟩
  -- what is read at the path of the model is the license, and that has a code and no signature
  rintro ⟨bytes, e, hread, hopen, hkind, -⟩
  obtain ⟨k, key, d, l, keys, hdelivers⟩ := hprotects.delivers
  obtain ⟨place, place', hleaves⟩ := hdelivers.leavesBoth
  have hpath : outcome.protectedModel = outcome.masterLicense := by
    rw [hleaves.paths_eq.1, hleaves.paths_eq.2]
    rfl
  obtain ⟨bytes', hread', hlicense⟩ := hleaves.license
  rw [hpath, hread'] at hread
  cases hread
  rw [hlicense.opens] at hopen
  cases hopen
  cases hkind

end ModelProtection
