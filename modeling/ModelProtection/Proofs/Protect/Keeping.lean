/-
No slot is leaked, and none is cleared that is not to be.

Every part of the workflow that is not given a lease away leaves the slots as
they were, whether it succeeds or not and whatever state the service is in
(`KeepsSlots`). The parts are put together without looking at the table again:
what follows a part meets a table with the same slots, and a step that derives
keys is followed by the span of their lease, which clears the one slot that the
step filled (`KeepsSlots.derivation`). The license build is given the content key
and ends its lease, so it leaves all slots but one.
-/
import ModelProtection.Proofs.Crypto.Leases
import ModelProtection.Proofs.Protect.Protecting

set_option autoImplicit false

namespace ModelProtection

variable {ε α β : Type} {t t' t₁ : SlotTable} {w w' : World}

/-- Two tables have the same live slots with the same material. -/
structure SlotTable.SameSlots (t t' : SlotTable) : Prop where
  live_eq : t'.live = t.live
  initialised_eq : t'.initialised = t.initialised
  issued_le : t.issued ≤ t'.issued

namespace SlotTable.SameSlots

theorem refl (t : SlotTable) : t.SameSlots t := ⟨rfl, rfl, Nat.le_refl _⟩

theorem trans (h : t.SameSlots t₁) (h' : t₁.SameSlots t') : t.SameSlots t' where
  live_eq := h'.live_eq.trans h.live_eq
  initialised_eq := h'.initialised_eq.trans h.initialised_eq
  issued_le := Nat.le_trans h.issued_le h'.issued_le

theorem wellFormed (h : t.SameSlots t') (ht : t.WellFormed) : t'.WellFormed := by
  obtain ⟨hlive, hinitialised, hissued⟩ := h
  refine ⟨?_, ?_, ?_, ?_⟩
  · rw [liveCount, hlive]
    exact ht.liveCount_le
  · intro e he
    rw [hlive] at he
    exact Nat.le_trans (ht.number_le e he) hissued
  · rw [hlive]
    exact ht.nodup
  · intro hoff
    rw [hinitialised] at hoff
    rw [hlive]
    exact ht.live_eq_nil hoff

/-- A slot is filled, something keeps all slots, and the slot is cleared. -/
theorem of_fill (ht : t.WellFormed) {material : KeyMaterial}
    (h : (t.fill material).SameSlots t') : t.SameSlots (t'.clear t.next) where
  live_eq := by
    have hsame : (t'.clear t.next).live = ((t.fill material).clear t.next).live := by
      rw [clear, clear, h.live_eq]
    rw [hsame, live_clear_fill ht.number_le]
  initialised_eq := h.initialised_eq
  issued_le := Nat.le_of_succ_le h.issued_le

end SlotTable.SameSlots

/-- Whatever it gives, and on whatever table it is run, a computation leaves the same slots. -/
def KeepsSlots (x : ExceptT ε OnWorld α) : Prop :=
  ∀ ⦃t w result t' w'⦄, t.WellFormed → Runs x t w result t' w' → t.SameSlots t'

namespace KeepsSlots

/-! ## Steps -/

theorem pure (a : α) : KeepsSlots (Pure.pure a : ExceptT ε OnWorld α) := by
  intro t w result t' w' _ h
  obtain ⟨-, rfl, -⟩ := h.pure
  exact .refl t'

theorem throw (e : ε) : KeepsSlots (MonadExcept.throw e : ExceptT ε OnWorld α) := by
  intro t w result t' w' _ h
  obtain ⟨-, rfl, -⟩ := h.throw
  exact .refl t'

theorem check (fault : ε → ParameterFault) (value : Except ε α) :
    KeepsSlots (WorkflowT.check fault value) := by
  intro t w result t' w' _ h
  cases h
  exact .refl t

theorem compute (value : Except ProtectError α) : KeepsSlots (WorkflowT.compute value) := by
  intro t w result t' w' _ h
  cases h
  exact .refl t

theorem readInput (p : Path) : KeepsSlots (WorkflowT.readInput p) := by
  intro t w result t' w' _ h
  cases h
  exact .refl t

theorem table_of_writeOutput {p : Path} {content : Bytes} {result : Except ProtectError Unit}
    (h : Runs (WorkflowT.writeOutput p content) t w result t' w') : t' = t := by
  cases h
  rfl

theorem writeOutput (p : Path) (content : Bytes) :
    KeepsSlots (WorkflowT.writeOutput p content) := by
  intro t w result t' w' _ h
  cases table_of_writeOutput h
  exact .refl t

/-- A clock knows nothing of the service. -/
theorem clock (c : StateM World Instant) :
    KeepsSlots (ExceptT.lift (StateT.lift c) : ExceptT ε OnWorld Instant) := by
  intro t w result t' w' _ h
  cases h
  exact .refl t

theorem bind {x : ExceptT ε OnWorld α} {f : α → ExceptT ε OnWorld β} (hx : KeepsSlots x)
    (hf : ∀ a, KeepsSlots (f a)) : KeepsSlots (x >>= f) := by
  intro t w result t' w' ht h
  rcases h.bind with ⟨e, -, hx'⟩ | ⟨a, t₁, w₁, hx', hrest⟩
  · exact hx ht hx'
  · have hfirst := hx ht hx'
    exact hfirst.trans (hf a (hfirst.wellFormed ht) hrest)

/-! ## Calls of the service -/

/-- A call that only asks. -/
theorem call {request : OnWorld (Except CryptoError α)}
    (hrequest : ∀ t w, Answers request t w fun _ t' => t' = t) :
    KeepsSlots (WorkflowT.call request) := by
  intro t w result t' w' _ h
  rcases (hrequest t w).cases with ⟨e, w₁, hx⟩ | ⟨a, t₁, w₁, hx, rfl⟩
  · cases h.symm.trans (Runs.call (.error e) hx)
    exact .refl t
  · cases h.symm.trans (Runs.call (.ok a) hx)
    exact .refl t'

/-- A call that derives keys, followed by the span of their lease. -/
theorem derivation {request : OnWorld (Except CryptoError (String × KeyLease))}
    {rest : String × KeyLease → WorkflowT OnWorld β}
    {body : String → KeyLease → WorkflowT OnWorld β}
    (hrequest : ∀ t w, Answers request t w fun p t' => t.Lends .derived p.2 t')
    (hrest : ∀ text derived, rest (text, derived) = derived.during (body text derived))
    (hbody : ∀ text derived, KeepsSlots (body text derived)) :
    KeepsSlots (WorkflowT.call request >>= rest) := by
  intro t w result t' w' ht h
  rcases (hrequest t w).cases with ⟨e, w₁, hx⟩ | ⟨⟨text, derived⟩, t₁, w₁, hx, hroom, hlease, hfill⟩
  · obtain ⟨-, rfl, -⟩ := h.bind_error (Runs.call (.error e) hx)
    exact .refl _
  · -- the span clears the slot that the call filled, and that was not live before
    obtain ⟨material, rfl⟩ := hfill
    cases hlease
    have hspan := h.bind_ok (Runs.call (.ok (text, _)) hx)
    rw [hrest] at hspan
    obtain ⟨t₂, hrun, rfl⟩ := hspan.during rfl
    exact .of_fill ht (hbody _ _ (ht.fill hroom.1 hroom.2 material) hrun)

/-! ## Encrypting -/

variable (content : KeyLease) (policy : TrailingByte)

theorem encryptFile (total : Nat) (file : InputFile) :
    KeepsSlots (encryptFile content policy total file : WorkflowT OnWorld (Artifact × Nat)) := by
  rw [ModelProtection.encryptFile]
  refine (readInput file.path).bind fun bytes => ?_
  refine derivation (fun t w => content.encrypt_answers _) (fun _ _ => rfl) ?_
  intro ciphertext derived
  cases Size.add? total (byteLength ciphertext) with
  | none => exact throw _
  | some total => exact pure _

theorem encryptFrom (total : Nat) (files : List InputFile) :
    KeepsSlots (encryptFrom content policy total files : WorkflowT OnWorld EncryptedFiles) := by
  induction files generalizing total with
  | nil => exact pure _
  | cons file files ih =>
    rw [ModelProtection.encryptFrom]
    refine (encryptFile content policy total file).bind fun p => ?_
    exact (ih p.2).bind fun rest => pure _

theorem encryptAll (files : List InputFile) :
    KeepsSlots (encryptAll content policy files : WorkflowT OnWorld EncryptedFiles) :=
  encryptFrom content policy 0 files

/-! ## Building -/

/-- A call that asks about a slot of a role. -/
theorem asking {request : OnWorld (Except CryptoError α)} {slot : SlotId} {role : KeyRole}
    (h : ∀ t w, Answers request t w fun _ t' => t' = t ∧ t.Holds slot role) :
    KeepsSlots (WorkflowT.call request) :=
  call fun t w => (h t w).mono fun _ _ hasked => hasked.1

/-- The slot of a lease as a step. -/
theorem leaseId (l : KeyLease) : KeepsSlots (WorkflowT.call (Pure.pure l.id : OnWorld _)) :=
  call fun _ _ => Answers.of_result fun _ _ => rfl

theorem modelBuild (b : ModelBuild) (identity content : KeyLease) (files : List InputFile)
    (metadata : Metadata) :
    KeepsSlots (b.run identity content files metadata : WorkflowT OnWorld _) := by
  rw [ModelBuild.run]
  refine (check _ _).bind fun _ => ?_
  refine (leaseId identity).bind fun slot => ?_
  refine (asking fun t w => .of_yields SlotTable.certificate_yields).bind fun certificate => ?_
  refine (asking fun t w => verifyCertificate_answers false certificate true).bind fun _ => ?_
  refine (encryptAll content b.trailingByte files).bind fun encrypted => ?_
  refine (call fun t w => ⟨rfl⟩).bind fun guid => ?_
  refine (compute _).bind fun capacity => ?_
  refine (compute _).bind fun bytes => ?_
  refine (call fun t w => ⟨rfl⟩).bind fun hash => ?_
  refine (asking fun t w => .of_yields (SlotTable.sign_yields bytes)).bind fun signed => ?_
  exact (writeOutput b.output signed).bind fun _ => pure _

theorem authenticated (identity content : KeyLease) (licenseGuid : String)
    (context : ProtectionContext) (c : StateM World Instant) :
    KeepsSlots (LicenseBuild.authenticated identity content licenseGuid context (StateT.lift c)
      : WorkflowT OnWorld Bytes) := by
  rw [LicenseBuild.authenticated]
  refine (check _ _).bind fun _ => ?_
  refine (compute _).bind fun p => ?_
  refine derivation (fun t w => identity.wrapKey_answers content) (fun _ _ => rfl) ?_
  intro wrappedKey derived
  refine (clock c).bind fun created => ?_
  refine (compute _).bind fun bytes => ?_
  refine (leaseId derived).bind fun slot => ?_
  exact asking fun t w => .of_yields (SlotTable.authenticate_yields bytes)

/-- The span of a lease clears the slot of the lease. One that has ended clears nothing, and then
there is nothing to clear. -/
theorem live_during {x : ExceptT ε OnWorld α} (hx : KeepsSlots x) (ht : t.WellFormed) {l : KeyLease}
    (hl : l.released = true → t.material? l.slot = none) {result : Except ε α}
    (h : Runs (l.during x) t w result t' w') : t'.live = (t.clear l.slot).live := by
  obtain ⟨slot, role, released⟩ := l
  cases released with
  | false =>
    obtain ⟨t₁, hbody, rfl⟩ := h.during rfl
    rw [SlotTable.clear, (hx ht hbody).live_eq]
    rfl
  | true =>
    have hbody : Runs x t w result t' w' := by
      cases h
      exact rfl
    rw [(hx ht hbody).live_eq, SlotTable.clear_eq_self (hl rfl)]

end KeepsSlots

/-! ## The license -/

namespace LicenseBuild

/-- What is done for a license before it is written, in the span of the lease of the content key. -/
def prepare (identity content : KeyLease) (licenseGuid : String) (context : ProtectionContext)
    (c : StateM World Instant) : WorkflowT OnWorld Bytes :=
  content.during (authenticated identity content licenseGuid context (StateT.lift c))

variable {output : Path} {identity content : KeyLease} {licenseGuid : String}
  {context : ProtectionContext} {c : StateM World Instant} {result : Except ProtectError Bytes}

/-- A license is prepared and then written. -/
theorem runWith_eq (output : Path) (identity content : KeyLease) (licenseGuid : String)
    (context : ProtectionContext) (c : StateM World Instant) :
    runWith output identity content licenseGuid context (StateT.lift c)
      = (prepare identity content licenseGuid context c >>= fun bytes =>
          WorkflowT.writeOutput output bytes >>= fun _ => pure bytes) := rfl

theorem live_prepare (ht : t.WellFormed)
    (hcontent : content.released = true → t.material? content.slot = none)
    (h : Runs (prepare identity content licenseGuid context c) t w result t' w') :
    t'.live = (t.clear content.slot).live := by
  have hkeeps := KeepsSlots.authenticated identity content licenseGuid context c
  exact hkeeps.live_during ht hcontent h

theorem live_runWith (ht : t.WellFormed)
    (hcontent : content.released = true → t.material? content.slot = none)
    (h : Runs (runWith output identity content licenseGuid context (StateT.lift c)) t w result
      t' w') : t'.live = (t.clear content.slot).live := by
  rw [runWith_eq] at h
  rcases h.bind with ⟨e, -, hprepare⟩ | ⟨bytes, t₁, w₁, hprepare, hrest⟩
  · exact live_prepare ht hcontent hprepare
  · -- what follows is the write of the license, which the table has no part in
    have htable : t' = t₁ := by
      rcases hrest.bind with ⟨e, -, hwrite⟩ | ⟨_, t₂, w₂, hwrite, hpure⟩
      · exact KeepsSlots.table_of_writeOutput hwrite
      · rw [hpure.pure.2.1]
        exact KeepsSlots.table_of_writeOutput hwrite
    rw [htable]
    exact live_prepare ht hcontent hprepare

/-- A slot that a wrapping fills is not live before it. -/
theorem material?_wrapped (ht : t.WellFormed) {wrapped : String} {derived : KeyLease}
    (h : (identity.wrapKey content : OnWorld (Except CryptoError (String × KeyLease))) t w
      = ((.ok (wrapped, derived), t₁), w')) : t.material? derived.slot = none := by
  have hanswers := (identity.wrapKey_answers content (t := t) (w := w)).outcome
  rw [h] at hanswers
  obtain ⟨-, hlease, -⟩ := hanswers
  cases hlease
  exact ht.material?_next

end LicenseBuild

/-! ## The workflow -/

/-- **The workflow leaks no slot and clears none that is not to be cleared**, in every state that a
service and the leases over it can come to, whether a part succeeds or fails. Leases may be of any
slot and any role; one that has ended is one that was made and ended before. Encrypting and building
the model leave all slots as they were. Building the license clears the slot of the content key and
no other; it comes to the write on a table where that is done, and where the slot that the wrapping
filled is not live either. Protecting a model ends with a service that is shut down. -/
theorem workflow_leaks_no_slot {t : SlotTable} {b : LeaseBook} (h : LeaseHistory t b) (w : World) :
    (∀ (content : KeyLease) (policy : TrailingByte) (files : List InputFile) result t' w',
      Runs (encryptAll content policy files) t w result t' w' → t'.live = t.live)
    ∧ (∀ (build : ModelBuild) (identity content : KeyLease) (files : List InputFile)
        (metadata : Metadata) result t' w',
      Runs (build.run identity content files metadata) t w result t' w' → t'.live = t.live)
    ∧ (∀ (output : Path) (identity content : KeyLease) (licenseGuid : String)
        (context : ProtectionContext) (clock : StateM World Instant),
      (content.released = true → content ∈ b.leases) →
      (∀ result t' w',
        Runs (LicenseBuild.runWith output identity content licenseGuid context (StateT.lift clock))
          t w result t' w' →
        t'.live = t.live.filter (·.1 ≠ content.slot))
      ∧ LicenseBuild.runWith output identity content licenseGuid context (StateT.lift clock)
        = (do
            let bytes ← LicenseBuild.prepare identity content licenseGuid context clock
            WorkflowT.writeOutput output bytes
            return bytes)
      ∧ ∀ bytes t₁ w₁,
        Runs (LicenseBuild.prepare identity content licenseGuid context clock) t w (.ok bytes) t₁ w₁ →
        t₁.material? content.slot = none
        ∧ ∀ wrapped derived t₂ w₂,
          (identity.wrapKey content : OnWorld _) t w = ((.ok (wrapped, derived), t₂), w₂) →
          t₁.material? derived.slot = none)
    ∧ (∀ r : ProtectRequest, r.validate = .ok () → ∀ result t' w',
      (protect r : OnWorld (Except StageError ProtectOutcome)) t w = ((result, t'), w') →
      t'.live = [] ∧ t'.initialised = false) := by
  have ht := h.wellFormed
  refine ⟨?_, ?_, ?_, ?_⟩
  · intro content policy files result t' w' hrun
    exact (KeepsSlots.encryptAll content policy files ht hrun).live_eq
  · intro build identity content files metadata result t' w' hrun
    exact (KeepsSlots.modelBuild build identity content files metadata ht hrun).live_eq
  · intro output identity content licenseGuid context clock hmem
    have hcontent : content.released = true → t.material? content.slot = none := by
      intro hreleased
      exact h.backs.spent content (hmem hreleased) hreleased
    refine ⟨?_, rfl, ?_⟩
    · intro result t' w' hrun
      exact LicenseBuild.live_runWith ht hcontent hrun
    · intro bytes t₁ w₁ hrun
      have hlive := LicenseBuild.live_prepare ht hcontent hrun
      refine ⟨?_, ?_⟩
      · rw [SlotTable.material?, hlive]
        exact SlotTable.material?_clear_self t content.slot
      · intro wrapped derived t₂ w₂ hwrap
        have hgone := LicenseBuild.material?_wrapped ht hwrap
        rw [SlotTable.material?, hlive]
        exact SlotTable.material?_clear_eq_none hgone content.slot
  · intro r hvalid result t' w' hrun
    obtain ⟨result', t₁, w₁, heq, -, htable⟩ := protect_runs r t w
    rw [hrun] at heq
    cases heq
    rcases htable with ⟨e, herror, -⟩ | ⟨-, t₂, rfl⟩
    · rw [hvalid] at herror
      cases herror
    · exact ⟨rfl, rfl⟩

/-- A license that cannot be built, since its GUID is none, ends the lease of the content key all the
same and leaves the key of somebody else. -/
theorem workflow_leaks_no_slot_sample :
    ∃ t b, LeaseHistory t b ∧ ∃ content ∈ b.leases,
      ∀ result t' w',
        Runs (LicenseBuild.runWith (.ofString "license") content content "" ⟨"", none, none⟩
          (StateT.lift (Host.now : StateM World Instant))) t World.bare result t' w' →
        t'.live = [(⟨1⟩, .content (World.bare.nextRandom 32))] := by
  -- one key is made by a call of the service, and then one under a lease
  have hstart := LeaseHistory.start.call ⟨.initialise, World.bare⟩
  have hother := hstart.call ⟨.generateContentKey 32, World.bare⟩
  have hlease := hother.request (.generateContentKey 32) World.bare trivial rfl
  refine ⟨_, _, hlease, ⟨⟨2⟩, .content, false⟩, List.mem_singleton.2 rfl, ?_⟩
  intro result t' w' hrun
  have hlive := ((workflow_leaks_no_slot hlease World.bare).2.2.1 _ _ _ _ _ _
    fun _ => List.mem_singleton.2 rfl).1 result t' w' hrun
  rw [hlive]
  rfl

end ModelProtection
