/-
A license is built from everything that is valid.

On the way from a context to a license there are many checks: of the GUID, of the
context, of the room for derived keys, of three lengths, of two capacities, and of
the place where the file goes. The first two decide before anything is done, so a
build that they stop leaves no trace but the end of the lease that was given to it.
All others but the room and the place are met by what is made here: a content key
that is wrapped is short, a date is too, and the code fits what was set aside for a
longer key (`LicenseDocument.Drafted.written_ok`).

The time may come from anywhere. Of the clock it is only asked that it leaves the
files alone, as the clock of the world does and a time that is given.
-/
import ModelProtection.Proofs.Crypto.Wrapping
import ModelProtection.Proofs.Protect.Capacity

set_option autoImplicit false

namespace ModelProtection

variable {t : SlotTable} {w : World} {output : Path} {identity content : SlotId}
  {seed key : Octets 32} {licenseGuid : String} {context : ProtectionContext}

/-! ## Contexts -/

namespace ProtectionContext

/-- A context from which nothing is missing gives what it has. -/
theorem require_of_isComplete (h : context.isComplete = true) :
    ∃ guid hash, context.modelGuid = some guid ∧ context.modelHash = some hash
      ∧ context.require = .ok (guid, hash) := by
  rw [isComplete, Bool.and_eq_true, Bool.and_eq_true, decide_eq_true_iff, Option.isSome_iff_exists,
    Option.isSome_iff_exists] at h
  obtain ⟨⟨hcertificate, guid, hguid⟩, hash, hhash⟩ := h
  refine ⟨guid, hash, hguid, hhash, ?_⟩
  rw [require, if_neg hcertificate, hguid, hhash]
  rfl

/-- What is missing is a wrong parameter. -/
theorem require_of_not_isComplete (h : context.isComplete = false) :
    ∃ fault, context.require = .error (.parameter fault) := by
  obtain ⟨certificate, guid, hash⟩ := context
  rw [require]
  by_cases hcertificate : certificateLength ⟨certificate, guid, hash⟩ = 0
  · exact ⟨_, by rw [if_pos hcertificate]; rfl⟩
  · rw [if_neg hcertificate]
    cases guid with
    | none => exact ⟨_, rfl⟩
    | some guid =>
      cases hash with
      | none => exact ⟨_, rfl⟩
      | some hash => simp [isComplete, hcertificate] at h

end ProtectionContext

/-! ## What it takes and what it gives -/

/-- Everything that is needed for a license is there and valid. -/
structure Licensable (t : SlotTable) (files : FileTree) (output : Path) (identity content : SlotId)
    (seed key : Octets 32) (licenseGuid : String) (context : ProtectionContext) : Prop where
  /-- The service has been started. -/
  initialised : t.initialised = true
  /-- A slot is free. -/
  live_le : t.liveCount ≤ 63
  /-- The identity is in its slot. -/
  identity : ∃ certificate, t.material? identity = some (.identity seed certificate)
  /-- The content key is in its slot. -/
  content : t.material? content = some (.content key)
  /-- The GUID of the license is one. -/
  licenseGuid : ∃ g, Guid.parse licenseGuid = .ok g
  /-- Nothing is missing from the context. -/
  complete : context.isComplete = true
  /-- The buffer for the license can be reserved. -/
  capacity : ∃ capacity ≤ Buffer.mostCapacity,
    licenseCapacity context.certificateLength = .ok capacity
  /-- The file can be written. -/
  writable : ∃ place, files.writable output = .ok place

/-- A file is a license: it is a document with its code, and the document says what the context, the
date and the wrapped key are. -/
structure IsLicense (bytes : Bytes) (keys : DerivedKeys) (licenseGuid : String)
    (context : ProtectionContext) (created : Instant) (wrappedKey : String) : Prop where
  exists_document : ∃ document guid hash,
    Envelope.decode bytes = .ok (Envelope.authenticated keys document)
      ∧ context.modelGuid = some guid ∧ context.modelHash = some hash
      ∧ Json.parse document = .ok (.object [
        ("creation_date", .text created.line), ("model_hash", .text hash.hex),
        ("license_guid", .text licenseGuid), ("model_guid", .text guid.canonical),
        ("encryption_key", .text wrappedKey), ("isv_certificate", .text context.certificate)])

/-- On every service with an identity in a slot and two slots free, a text is unwrapped to a content
key and to the keys that were derived for it. -/
def UnwrapsTo (seed key : Octets 32) (keys : DerivedKeys) (text : String) : Prop :=
  ∀ (t : SlotTable) (slot : SlotId) (certificate : String) (w : World),
    t.HasRoom 2 → t.material? slot = some (.identity seed certificate) →
    let p : PlacedCall := ⟨.unwrapKey slot text, w⟩
    ∃ content derived, p.answer t = .ok (.twoSlots content derived)
      ∧ (p.next t).material? content = some (.content key)
      ∧ (p.next t).material? derived = some (.derived keys)

/-! ## Building -/

namespace Licensable

/-- What is set aside for the license can be reserved. -/
theorem room (h : Licensable t w.files output identity content seed key licenseGuid context) :
    byteLength context.certificate * escapeFactor + licenseFixedSize ≤ Buffer.mostCapacity := by
  obtain ⟨capacity, hmost, hcapacity⟩ := h.capacity
  rw [ProtectionContext.certificateLength] at hcapacity
  rw [← LicenseDocument.eq_of_licenseCapacity hcapacity]
  exact hmost

/-- A license is made and authenticated under the keys that the wrapping derives, with the time that
the clock shows after the wrapping. -/
theorem authenticated_runs
    (h : Licensable t w.files output identity content seed key licenseGuid context)
    (clock : StateM World Instant) :
    let keys := DerivedKeys.expand seed (w.nextRandom DerivedKeys.saltSize) .wrap
    let tick : Instant × World := clock (w.afterDraw DerivedKeys.saltSize)
    ∃ bytes wrappedKey, IsLicense bytes keys licenseGuid context tick.1 wrappedKey
      ∧ UnwrapsTo seed key keys wrappedKey
      ∧ Runs (LicenseBuild.authenticated ⟨identity, .identity, false⟩ ⟨content, .content, false⟩
          licenseGuid context (StateT.lift clock)) t w (.ok bytes)
        ((t.fill (.derived keys)).clear t.next) tick.2 := by
  intro keys tick
  obtain ⟨g, hg⟩ := h.licenseGuid
  obtain ⟨guid, hash, hguid, hhash, hrequire⟩ := ProtectionContext.require_of_isComplete h.complete
  obtain ⟨certificate, hidentity⟩ := h.identity
  have hfree : ¬ SlotTable.mostLive < t.liveCount + 1 := Nat.not_lt_of_le (Nat.succ_le_succ h.live_le)
  obtain ⟨body, hbody, hwrap⟩ := Runs.wrapKey_ok (w := w) h.initialised hfree hidentity h.content
  let wrappedKey := Salted.write ⟨w.nextRandom DerivedKeys.saltSize, body⟩
  let d : LicenseDocument := ⟨tick.1.line, hash, licenseGuid, guid, wrappedKey, context.certificate⟩
  have hdraft : d.Drafted keys key := ⟨⟨g, hg⟩, ⟨tick.1, rfl⟩, _, body, hbody, rfl⟩
  obtain ⟨hbytes, hcode⟩ := hdraft.written_ok h.room
  refine ⟨(Envelope.authenticated keys d.written).sealedBytes, wrappedKey, ?_, ?_, ?_⟩
  · exact ⟨d.written, guid, hash, Envelope.decode_sealedBytes (Envelope.isTag_authenticated _ _),
      hguid, hhash, Json.parse_pretty _⟩
  · intro t' slot certificate' w' hroom hslot
    exact PlacedCall.unwrapKey_of_carries hroom hslot (Salted.carries_write hbody)
  · -- the checks, the wrapping, and then the span of the derived keys
    refine (Runs.check_ok hg).bind_of_ok ((Runs.compute hrequire).bind_of_ok (hwrap.bind_of_ok ?_))
    refine Runs.during_of ⟨t.next, .derived, false⟩ ?_
    have htick : Runs (ExceptT.lift (StateT.lift clock) : WorkflowT OnWorld Instant)
        (t.fill (.derived keys)) (w.afterDraw DerivedKeys.saltSize) (.ok tick.1)
        (t.fill (.derived keys)) tick.2 := rfl
    refine htick.bind_of_ok ((Runs.compute hbytes).bind_of_ok ?_)
    exact (Runs.call (.ok t.next) rfl).bind_of_ok (authenticate_ok hcode)

end Licensable

/-- A build that is refused for its GUID or its context has only ended the lease of the content key. -/
theorem LicenseBuild.runs_refused {identity content : KeyLease} {clock : OnWorld Instant}
    (hrefused : (∃ e, Guid.parse licenseGuid = .error e) ∨ context.isComplete = false) :
    ∃ fault, Runs (LicenseBuild.runWith output identity content licenseGuid context clock) t w
      (.error (.parameter fault)) (if content.released then t else t.clear content.slot) w := by
  obtain ⟨fault, hmade⟩ : ∃ fault, Runs
      (LicenseBuild.authenticated identity content licenseGuid context clock) t w
      (.error (.parameter fault)) t w := by
    rcases hguid : Guid.parse licenseGuid with e | g
    · exact ⟨_, (Runs.check_error hguid).bind_of_error⟩
    · rcases hrefused with ⟨e, he⟩ | hcontext
      · rw [hguid] at he
        cases he
      · obtain ⟨fault, hrequire⟩ := ProtectionContext.require_of_not_isComplete hcontext
        exact ⟨fault, (Runs.check_ok hguid).bind_of_ok (Runs.compute hrequire).bind_of_error⟩
  exact ⟨fault, (Runs.during_of content hmade).bind_of_error⟩

/-- **A license can be built from everything that is valid.** The build succeeds and the file holds
what it returns. That is a license with the GUID as it was given, what the context says, the date that
the clock shows once the key is wrapped, and a wrapped key that is unwrapped under the same identity to
the same content key. The clock may be that of the world (`LicenseBuild.run`), a time that is given
(`LicenseBuild.runAt`), or any other that leaves the files alone. With a text that is no GUID, or a
context from which something is missing, a parameter is wrong: nothing is drawn, no slot is filled, no
file is touched and the clock is not read. -/
theorem license_build_total :
    (∀ (t : SlotTable) (w : World) (output : Path) (identity content : SlotId) (seed key : Octets 32)
        (licenseGuid : String) (context : ProtectionContext) (clock : StateM World Instant),
      Licensable t w.files output identity content seed key licenseGuid context →
      (∀ w, (clock w).2.files = w.files) →
      let keys := DerivedKeys.expand seed (w.nextRandom DerivedKeys.saltSize) .wrap
      let created := (clock (w.afterDraw DerivedKeys.saltSize)).1
      ∃ bytes wrappedKey t' w',
        Runs (LicenseBuild.runWith output ⟨identity, .identity, false⟩ ⟨content, .content, false⟩
          licenseGuid context (StateT.lift clock)) t w (.ok bytes) t' w'
        ∧ w'.files.read output = .ok bytes
        ∧ IsLicense bytes keys licenseGuid context created wrappedKey
        ∧ UnwrapsTo seed key keys wrappedKey)
    ∧ ∀ (t : SlotTable) (w : World) (output : Path) (identity content : KeyLease)
        (licenseGuid : String) (context : ProtectionContext) (clock : OnWorld Instant),
      (∃ e, Guid.parse licenseGuid = .error e) ∨ context.isComplete = false →
      ∃ fault t',
        Runs (LicenseBuild.runWith output identity content licenseGuid context clock) t w
          (.error (.parameter fault)) t' w
        ∧ t'.issued = t.issued := by
  refine ⟨?_, ?_⟩
  · intro t w output identity content seed key licenseGuid context clock h hclock keys created
    obtain ⟨bytes, wrappedKey, hlicense, hunwraps, hmade⟩ := h.authenticated_runs clock
    obtain ⟨place, hplace⟩ := h.writable
    -- the files are still those of the start, so the place is still there
    have hwrite := FileTree.write_of_writable hplace bytes
    have hfiles : (clock (w.afterDraw DerivedKeys.saltSize)).2.files = w.files := hclock _
    rw [← hfiles] at hwrite
    have hruns : Runs (LicenseBuild.runWith output ⟨identity, .identity, false⟩
        ⟨content, .content, false⟩ licenseGuid context (StateT.lift clock)) t w (.ok bytes) _ _ :=
      (Runs.during_of ⟨content, .content, false⟩ hmade).bind_of_ok
        ((Runs.writeOutput_ok hwrite).bind_of_ok rfl)
    exact ⟨bytes, wrappedKey, _, _, hruns, FileTree.read_write hwrite, hlicense, hunwraps⟩
  · intro t w output identity content licenseGuid context clock hrefused
    obtain ⟨fault, hruns⟩ := LicenseBuild.runs_refused hrefused
    refine ⟨fault, _, hruns, ?_⟩
    split <;> rfl

/-- A context from which nothing is missing. -/
def ProtectionContext.sample : ProtectionContext where
  certificate := "certificate"
  modelGuid := some ⟨.ofListPadded 16 []⟩
  modelHash := some ⟨.ofListPadded 32 []⟩

/-- A license is built with the clock of the world where an identity and a content key are in the first
two slots, and is not built there without a GUID. -/
theorem license_build_total_sample :
    let zero : Octets 32 := .ofListPadded 32 []
    let t := ((SlotTable.initialise {}).fill (.identity zero "certificate")).fill (.content zero)
    let build : String → WorkflowT OnWorld Bytes := fun licenseGuid =>
      LicenseBuild.run (.ofString "license") ⟨⟨1⟩, .identity, false⟩ ⟨⟨2⟩, .content, false⟩ licenseGuid
        .sample
    (∃ bytes t' w',
        Runs (build "00000000-0000-0000-0000-000000000000") t World.bare (.ok bytes) t' w'
        ∧ w'.files.read (.ofString "license") = .ok bytes)
      ∧ ∃ fault t', Runs (build "license") t World.bare (.error (.parameter fault)) t' World.bare := by
  intro zero t build
  have hlicensable : Licensable t World.bare.files (.ofString "license") ⟨1⟩ ⟨2⟩ zero zero
      "00000000-0000-0000-0000-000000000000" .sample := {
    initialised := rfl
    live_le := by decide
    identity := ⟨"certificate", rfl⟩
    content := rfl
    licenseGuid := ⟨_, rfl⟩
    complete := rfl
    capacity := ⟨3818, by decide, rfl⟩
    writable := ⟨_, rfl⟩ }
  obtain ⟨bytes, _, t', w', hruns, hread, -⟩ := license_build_total.1 t World.bare _ ⟨1⟩ ⟨2⟩ zero zero _
    .sample Host.now hlicensable fun _ => rfl
  obtain ⟨fault, t'', hrefused, -⟩ := license_build_total.2 t World.bare (.ofString "license")
    ⟨⟨1⟩, .identity, false⟩ ⟨⟨2⟩, .content, false⟩ "license" .sample Host.now (.inl ⟨_, rfl⟩)
  exact ⟨⟨bytes, t', w', hruns, hread⟩, fault, t'', hrefused⟩

end ModelProtection
