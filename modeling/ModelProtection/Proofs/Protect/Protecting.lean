/-
How protecting a model can go.

`Protects` lists it once and for all: a request that is not valid, a service
without room, an identity that cannot be loaded, a build that fails, or both
documents. Nothing in the list speaks of slots; all that it takes from the table
is how many of them were live at the start. So whatever is proved about the list
holds for every table (`protect_runs`).
-/
import ModelProtection.Proofs.Protect.Building

set_option autoImplicit false

namespace ModelProtection

variable {t t' : SlotTable} {w w' : World}

/-! ## What a valid request promises -/

namespace ProtectRequest

variable {r : ProtectRequest}

theorem eq_ok_of_bound {result : Except Bound.Error Unit} (h : validate.bound result = .ok ()) :
    result = .ok () := by
  cases result with
  | error e => cases h
  | ok _ => rfl

/-- A request that is accepted has files, a description within its bounds, and a GUID. -/
theorem of_validate (h : r.validate = .ok ()) :
    r.inputs ≠ [] ∧ r.metadata.validate = .ok () ∧ ∃ g, Guid.parse r.licenseGuid = .ok g := by
  rw [validate] at h
  split at h
  · cases h
  rename_i hinputs
  -- the checks of the settings in between promise nothing that is needed here
  obtain ⟨⟨⟩, -, h⟩ := eq_ok_of_bind h
  obtain ⟨⟨⟩, hmetadata, h⟩ := eq_ok_of_bind h
  obtain ⟨⟨⟩, -, h⟩ := eq_ok_of_bind h
  obtain ⟨⟨⟩, -, h⟩ := eq_ok_of_bind h
  obtain ⟨⟨⟩, -, h⟩ := eq_ok_of_bind h
  obtain ⟨⟨⟩, -, h⟩ := eq_ok_of_bind h
  refine ⟨fun hnil => hinputs (by rw [hnil]; rfl), eq_ok_of_bound hmetadata, ?_⟩
  cases hguid : Guid.parse r.licenseGuid with
  | ok g => exact ⟨g, rfl⟩
  | error e => rw [hguid] at h; cases h

end ProtectRequest

/-! ## The identity and the content key -/

/-- The leases after the identity was loaded and the content key was made. -/
theorem leased_fill_fill (h : t.initialised = true) (k : Keystore) (key : Octets 32) :
    Leased ((t.fill (.identity k.seed k.certificate)).fill (.content key)) k key
      (SlotTable.mostLive < t.liveCount + 3) t.next (t.fill (.identity k.seed k.certificate)).next where
  initialised := h
  identity := by
    rw [SlotTable.material?_fill_of_le (Nat.le_refl _), SlotTable.material?_fill_next]
  content := SlotTable.material?_fill_next _ _
  identity_le := Nat.le_succ _
  content_le := Nat.le_refl _
  full_iff := by
    rw [SlotTable.liveCount_fill, SlotTable.liveCount_fill]

section Identity

variable {keystore : Path}

/-- The table is asked for room before the keystore is read. -/
theorem loadIdentity_full (hinit : t.initialised = true)
    (hfull : SlotTable.mostLive < t.liveCount + 1) :
    Runs (WorkflowT.call (KeyLease.loadIdentity keystore)) t w
      (.error (.crypto (.slotsExhausted t.liveCount))) t w := by
  refine Runs.leasing (.error (.slotsExhausted t.liveCount)) ?_
  have hfree := Runs.operation_error (w := w)
    ((SlotTable.requireFree_eq hinit 1).trans (if_pos hfull))
  change (Software.loadIdentity keystore : OnWorld (Except CryptoError SlotId)) t w = _
  rw [Software.loadIdentity, OnWorld.bind_eq hfree]
  rfl

theorem loadIdentity_error (hinit : t.initialised = true)
    (hroom : ¬ SlotTable.mostLive < t.liveCount + 1) {e : Keystore.Error}
    (hload : Keystore.load keystore (w.files.read keystore) = .error e) :
    Runs (WorkflowT.call (KeyLease.loadIdentity keystore)) t w
      (.error (.crypto (.ofKeystore e))) t w := by
  refine Runs.leasing (.error (.ofKeystore e)) ?_
  have hfree := Runs.operation_ok (w := w)
    ((SlotTable.requireFree_eq hinit 1).trans (if_neg hroom))
  have hread := OnWorld.loadAt_eq (t := t) (w := w) keystore
  rw [hload] at hread
  change (Software.loadIdentity keystore : OnWorld (Except CryptoError SlotId)) t w = _
  rw [Software.loadIdentity, OnWorld.bind_eq hfree]
  dsimp only
  rw [OnWorld.bind_eq hread]
  rfl

theorem loadIdentity_ok (hinit : t.initialised = true)
    (hroom : ¬ SlotTable.mostLive < t.liveCount + 1) {k : Keystore}
    (hload : Keystore.load keystore (w.files.read keystore) = .ok k) :
    Runs (WorkflowT.call (KeyLease.loadIdentity keystore)) t w (.ok ⟨t.next, .identity, false⟩)
      (t.fill (.identity k.seed k.certificate)) w :=
  Runs.leasing (.ok t.next) (Runs.loadIdentity_eq hinit hroom hload)

end Identity

section ContentKey

/-- The key is drawn before the table is asked for room. -/
theorem generateContentKey_full (hinit : t.initialised = true)
    (hfull : SlotTable.mostLive < t.liveCount + 1) :
    Runs (WorkflowT.call (KeyLease.generateContentKey contentKeySize)) t w
      (.error (.crypto (.slotsExhausted t.liveCount))) t (w.afterDraw 32) := by
  have hop := (SlotTable.insert_eq hinit (.content (w.nextRandom 32))).trans (if_pos hfull)
  exact Runs.leasing (.error (.slotsExhausted t.liveCount))
    (Runs.operation_error (w := w.afterDraw 32) hop)

theorem generateContentKey_ok (hinit : t.initialised = true)
    (hroom : ¬ SlotTable.mostLive < t.liveCount + 1) :
    Runs (WorkflowT.call (KeyLease.generateContentKey contentKeySize)) t w
      (.ok ⟨t.next, .content, false⟩) (t.fill (.content (w.nextRandom 32))) (w.afterDraw 32) := by
  have hop := (SlotTable.insert_eq hinit (.content (w.nextRandom 32))).trans (if_neg hroom)
  exact Runs.leasing (.ok t.next) (Runs.operation_ok (w := w.afterDraw 32) hop)

end ContentKey

/-! ## Everything -/

/-- Protecting a model, with some slots live at the start, gives a result and leaves a world. -/
inductive Protects (r : ProtectRequest) (live : Nat) (w : World) :
    Except StageError ProtectOutcome → World → Prop where
  /-- The request is not valid. -/
  | invalid {e : ProtectError} (h : r.validate = .error e) :
    Protects r live w (.error ⟨.validateRequest, e⟩) w
  /-- There is no slot for the identity. -/
  | identityFull (hvalid : r.validate = .ok ()) (hfull : SlotTable.mostLive < live + 1) :
    Protects r live w (.error ⟨.loadIdentity, .crypto (.slotsExhausted live)⟩) w
  /-- The identity cannot be loaded. -/
  | identity {e : Keystore.Error} (hvalid : r.validate = .ok ())
    (hroom : ¬ SlotTable.mostLive < live + 1)
    (h : Keystore.load r.keystore (w.files.read r.keystore) = .error e) :
    Protects r live w (.error ⟨.loadIdentity, .crypto (.ofKeystore e)⟩) w
  /-- There is no slot for the content key. -/
  | contentFull {k : Keystore} (hvalid : r.validate = .ok ())
    (hload : Keystore.load r.keystore (w.files.read r.keystore) = .ok k)
    (hfull : SlotTable.mostLive < live + 2) :
    Protects r live w (.error ⟨.generateContentKey, .crypto (.slotsExhausted (live + 1))⟩)
      (w.afterDraw 32)
  /-- The protected model is not built. -/
  | model {k : Keystore} {e : ProtectError} {w' : World} (hvalid : r.validate = .ok ())
    (hload : Keystore.load r.keystore (w.files.read r.keystore) = .ok k)
    (hmodel : BuildsModel k (w.nextRandom 32) (SlotTable.mostLive < live + 3)
      ⟨r.protectedModelPath, r.trailingByte⟩ (InputFile.ofPaths r.inputs) r.metadata (w.afterDraw 32)
      (.error e) w') :
    Protects r live w (.error ⟨.protectedModel, e⟩) w'
  /-- The master license is not built. -/
  | license {k : Keystore} {context : ProtectionContext} {signed : Bytes} {e : ProtectError}
    {w₁ w' : World} (hvalid : r.validate = .ok ())
    (hload : Keystore.load r.keystore (w.files.read r.keystore) = .ok k)
    (hmodel : BuildsModel k (w.nextRandom 32) (SlotTable.mostLive < live + 3)
      ⟨r.protectedModelPath, r.trailingByte⟩ (InputFile.ofPaths r.inputs) r.metadata (w.afterDraw 32)
      (.ok (context, signed)) w₁)
    (hlicense : BuildsLicense k (w.nextRandom 32) (SlotTable.mostLive < live + 3) r.masterLicensePath
      r.licenseGuid context w₁ (.error e) w') :
    Protects r live w (.error ⟨.masterLicense, e⟩) w'
  /-- Both documents are written. -/
  | done {k : Keystore} {context : ProtectionContext} {signed authenticated : Bytes}
    {modelGuid licenseGuid : Guid} {modelHash : ModelHash} {w₁ w' : World}
    (hvalid : r.validate = .ok ())
    (hload : Keystore.load r.keystore (w.files.read r.keystore) = .ok k)
    (hmodel : BuildsModel k (w.nextRandom 32) (SlotTable.mostLive < live + 3)
      ⟨r.protectedModelPath, r.trailingByte⟩ (InputFile.ofPaths r.inputs) r.metadata (w.afterDraw 32)
      (.ok (context, signed)) w₁)
    (hlicense : BuildsLicense k (w.nextRandom 32) (SlotTable.mostLive < live + 3) r.masterLicensePath
      r.licenseGuid context w₁ (.ok authenticated) w')
    (hcontext : context.require = .ok (modelGuid, modelHash))
    (hguid : Guid.parse r.licenseGuid = .ok licenseGuid) :
    Protects r live w
      (.ok { modelGuid, modelHash, licenseGuid
             artifactCount := r.inputs.length
             protectedModel := r.protectedModelPath
             masterLicense := r.masterLicensePath }) w'

/-- A license that was built was told everything about the model. -/
theorem BuildsLicense.context_eq {k : Keystore} {key : Octets 32} {full : Prop} {output : Path}
    {licenseGuid : String} {context : ProtectionContext} {authenticated : Bytes}
    (h : BuildsLicense k key full output licenseGuid context w (.ok authenticated) w') :
    ∃ modelGuid modelHash, context.require = .ok (modelGuid, modelHash) := by
  cases h with
  | built hdraft _ _ _ => exact ⟨_, _, hdraft.context_eq⟩

/-- Both documents under a loaded identity. -/
theorem protectUnder_runs {r : ProtectRequest} {licenseGuid : Guid} {k : Keystore}
    {result : Except StageError ProtectOutcome} (hinit : t.initialised = true)
    (hvalid : r.validate = .ok ()) (hguid : Guid.parse r.licenseGuid = .ok licenseGuid)
    (hload : Keystore.load r.keystore (w.files.read r.keystore) = .ok k)
    (hrun : Runs (protectUnder r licenseGuid ⟨t.next, .identity, false⟩)
      (t.fill (.identity k.seed k.certificate)) w result t' w') :
    Protects r t.liveCount w result w' := by
  rw [protectUnder] at hrun
  by_cases hfull : SlotTable.mostLive < t.liveCount + 2
  · obtain ⟨rfl, -, rfl⟩ := hrun.bind_error (.stage (generateContentKey_full
      (t := t.fill (.identity k.seed k.certificate)) hinit hfull))
    exact .contentFull hvalid hload hfull
  replace hrun := hrun.bind_ok (.stage (generateContentKey_ok
    (t := t.fill (.identity k.seed k.certificate)) hinit hfull))
  have hleased := leased_fill_fill hinit k (w.nextRandom 32)
  -- the model is built as a stage, under a lease that only a failure ends
  obtain ⟨built, t₁, w₁, hbuild⟩ := Runs.exists_result
    (ModelBuild.run ⟨r.protectedModelPath, r.trailingByte⟩ ⟨t.next, .identity, false⟩
      ⟨(t.fill (.identity k.seed k.certificate)).next, .content, false⟩
      (InputFile.ofPaths r.inputs) r.metadata)
    ((t.fill (.identity k.seed k.certificate)).fill (.content (w.nextRandom 32))) (w.afterDraw 32)
  obtain ⟨hmodel, hkept⟩ := modelBuild_runs hleased hbuild
  rcases built with e | ⟨context, signed⟩
  · obtain ⟨rfl, -, rfl⟩ := hrun.bind_error (.releaseOnError_error rfl (.stage hbuild))
    exact .model hvalid hload hmodel
  replace hrun := hrun.bind_ok (.releaseOnError_ok (.stage hbuild))
  obtain ⟨made, t₂, w₂, hmake⟩ := Runs.exists_result
    (LicenseBuild.run r.masterLicensePath ⟨t.next, .identity, false⟩
      ⟨(t.fill (.identity k.seed k.certificate)).next, .content, false⟩ r.licenseGuid context) t₁ w₁
  have hlicense := licenseBuild_runs (hkept _ rfl) hmake
  rcases made with e | authenticated
  · obtain ⟨rfl, -, rfl⟩ := hrun.bind_error (.stage hmake)
    exact .license hvalid hload hmodel hlicense
  replace hrun := hrun.bind_ok (.stage hmake)
  obtain ⟨modelGuid, modelHash, hcontext⟩ := hlicense.context_eq
  obtain ⟨rfl, -, rfl⟩ := (hrun.bind_ok (.stage (.compute hcontext))).pure
  exact .done hvalid hload hmodel hlicense hcontext hguid

/-- Protecting a model is one of the cases in the list. A request that is not valid leaves the table
as it was; any other leaves a service that has been shut down. -/
theorem protect_runs (r : ProtectRequest) (t : SlotTable) (w : World) :
    ∃ result t' w', (protect r : OnWorld (Except StageError ProtectOutcome)) t w = ((result, t'), w')
      ∧ Protects r t.liveCount w result w'
      ∧ ((∃ e, r.validate = .error e ∧ t' = t)
        ∨ r.validate = .ok () ∧ ∃ t₁, t' = SlotTable.shutDown t₁) := by
  obtain ⟨⟨⟨result, t'⟩, w'⟩, heq⟩ : ∃ p, (protect r : OnWorld _) t w = p := ⟨_, rfl⟩
  refine ⟨result, t', w', heq, ?_⟩
  replace heq : Runs (ExceptT.mk (protect r : OnWorld _)) t w result t' w' := heq
  have hrun := heq
  rw [protect] at hrun
  rcases hvalid : r.validate with e | ⟨⟩
  · obtain ⟨rfl, rfl, rfl⟩ := hrun.bind_error (.stage (.compute hvalid))
    exact ⟨.invalid hvalid, .inl ⟨e, rfl, rfl⟩⟩
  replace hrun := hrun.bind_ok (.stage (.compute hvalid))
  obtain ⟨-, -, licenseGuid, hguid⟩ := ProtectRequest.of_validate hvalid
  replace hrun := hrun.bind_ok (.stage (.check_ok hguid))
  -- everything else happens in a session, which ends in a service that has been shut down
  have hstart : Runs (WorkflowT.call Session.start) t w (.ok (Session.mk true)) t.initialise w :=
    .call (.ok (Session.mk true)) rfl
  replace hrun := hrun.bind_ok (.stage hstart)
  obtain ⟨t₁, hspan, rfl⟩ := hrun.session rfl
  refine ⟨?_, .inr ⟨rfl, t₁, rfl⟩⟩
  by_cases hfull : SlotTable.mostLive < t.liveCount + 1
  · obtain ⟨rfl, -, rfl⟩ := hspan.bind_error
      (.stage (loadIdentity_full (t := t.initialise) rfl hfull))
    exact .identityFull hvalid hfull
  rcases hload : Keystore.load r.keystore (w.files.read r.keystore) with e | k
  · obtain ⟨rfl, -, rfl⟩ := hspan.bind_error
      (.stage (loadIdentity_error (t := t.initialise) rfl hfull hload))
    exact .identity hvalid hfull hload
  obtain ⟨t₂, hbody, -⟩ := (hspan.bind_ok
    (.stage (loadIdentity_ok (t := t.initialise) rfl hfull hload))).during rfl
  exact protectUnder_runs (t := t.initialise) rfl hvalid hguid hload hbody

end ModelProtection
