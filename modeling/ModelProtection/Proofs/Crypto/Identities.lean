/-
Identities and their signatures.

An identity comes into a slot in one way only, from a keystore that was loaded,
and loading checks that the certificate goes with the key. No call changes what a
slot holds. So at any time every live identity has a certificate that can be read,
that is signed by the key it names, and that names the key of the slot
(`SlotTable.Vouched`): one call keeps that (`SoftwareCall.run_keeps_vouched`), and
so does a history of them.

From there on signatures are a matter of the signature scheme alone. That a key
verifies what is signed with it (`Ed25519.Passes`) is assumed, for the seed and the
document in question; which key is asked, about which bytes, is not.
-/
import ModelProtection.Proofs.Certificate.Naming
import ModelProtection.Proofs.Crypto.Wrapping

set_option autoImplicit false

namespace ModelProtection

variable {t t' : SlotTable} {w : World} {slot : SlotId} {seed : Octets 32} {certificate : String}

/-! ## Every identity has its certificate -/

/-- An identity has a certificate that can be read, is signed by the key it names, and names the key of
the identity. Nothing is asked of other keys. -/
def KeyMaterial.Vouched : KeyMaterial → Prop
  | .identity seed certificate =>
    ∃ c, Certificate.parse certificate = .ok c ∧ c.checkSignature = .ok ()
      ∧ c.binds (Ed25519.publicKey seed) = true
  | .content _ => True
  | .derived _ => True

/-- All live identities have their certificates. -/
def SlotTable.Vouched (t : SlotTable) : Prop := ∀ e ∈ t.live, e.2.Vouched

namespace SlotTable.Vouched

theorem empty : SlotTable.Vouched {} := nofun

theorem fill (h : t.Vouched) {material : KeyMaterial} (hmaterial : material.Vouched) :
    (t.fill material).Vouched :=
  List.forall_mem_cons.2 ⟨hmaterial, h⟩

theorem clear (h : t.Vouched) (slot : SlotId) : (t.clear slot).Vouched := by
  intro e he
  exact h e (List.mem_filter.1 he).1

theorem of_material? (h : t.Vouched) (hslot : t.material? slot = some (.identity seed certificate)) :
    ∃ c, Certificate.parse certificate = .ok c ∧ c.checkSignature = .ok ()
      ∧ c.binds (Ed25519.publicKey seed) = true := by
  obtain ⟨before, after, hlive, -⟩ := List.lookup_eq_some_iff.1 hslot
  refine h (slot, .identity seed certificate) ?_
  rw [hlive]
  exact List.mem_append_right before List.mem_cons_self

end SlotTable.Vouched

/-- Calls that fill no slots take identities away at most. -/
theorem Effect.vouched {kind : CallKind} {slots : List SlotId} (h : Effect t kind slots t')
    (ht : t.Vouched) (hone : kind ≠ .fill) (htwo : kind ≠ .fillTwice) : t'.Vouched := by
  cases h with
  | initialise => exact ht
  | shutDown => exact SlotTable.Vouched.empty
  | clear slot => exact ht.clear slot
  | ask => exact ht
  | fill hroom material => exact absurd rfl hone
  | fillTwice hroom material material' => exact absurd rfl htwo

/-- Only loading brings an identity, and with its certificate. -/
theorem SoftwareCall.run_keeps_vouched (c : SoftwareCall) (ht : t.Vouched) (w : World) :
    Answers c.run t w fun _ t' => t'.Vouched := by
  cases c with
  | loadIdentity keystore =>
    refine Answers.map ((loadIdentity_makes keystore).mono ?_)
    rintro id t' ⟨k, content, hload, -, -, rfl⟩
    exact ht.fill (Keystore.of_load hload)
  | generateContentKey size =>
    refine Answers.map ((generateContentKey_makes size).mono ?_)
    rintro id t' ⟨key, -, -, rfl⟩
    exact ht.fill trivial
  | encrypt slot message =>
    refine Answers.map ((encrypt_derives message).mono ?_)
    rintro p t' ⟨⟨keys, -, rfl⟩, -⟩
    exact ht.fill trivial
  | wrapKey identity content =>
    refine Answers.map (wrapKey_derives.mono ?_)
    rintro p t' ⟨⟨keys, -, rfl⟩, -⟩
    exact ht.fill trivial
  | unwrapKey slot text =>
    refine Answers.map (Answers.of_yields ((SlotTable.unwrapKey_makes text).mono ?_))
    rintro p t' ⟨s, seed, certificate, key, -, -, -, -, -, rfl⟩
    have hcontent : (t.fill (.content key)).Vouched := ht.fill trivial
    exact hcontent.fill trivial
  | _ => exact (SoftwareCall.run_answers _ t w).mono fun _ _ h => h.1.vouched ht nofun nofun

theorem PlacedCall.next_vouched (p : PlacedCall) (ht : t.Vouched) : (p.next t).Vouched := by
  rw [next]
  rcases (p.call.run_keeps_vouched ht p.world).cases with ⟨e, w', hx⟩ | ⟨answer, t', w', hx, ht'⟩
  · rw [hx]
    exact ht
  · rw [hx]
    exact ht'

theorem SlotTable.after_vouched (ht : t.Vouched) (calls : List PlacedCall) :
    (t.after calls).Vouched := by
  induction calls generalizing t with
  | nil => exact ht
  | cons p calls ih => exact ih (p.next_vouched ht)

/-! ## Signatures -/

/-- The public key of a seed verifies what is signed with the seed. -/
def Ed25519.Passes (seed : Octets 32) (message : Bytes) : Prop :=
  ∀ key, VerifyingKey.ofBytes? (publicKey seed) = some key →
    key.verify message (sign seed message) = true

instance (seed : Octets 32) (message : Bytes) : Decidable (Ed25519.Passes seed message) :=
  decidable_of_iff ((Ed25519.VerifyingKey.ofBytes? (Ed25519.publicKey seed)).all
    fun key => key.verify message (Ed25519.sign seed message)) (Option.all_eq_true _ _)

theorem Certificate.accepts_of_passes {c : Certificate} {message : Bytes}
    (hsigned : c.checkSignature = .ok ()) (hbinds : c.binds (Ed25519.publicKey seed) = true)
    (hpasses : Ed25519.Passes seed message) : c.Accepts seed message := by
  obtain ⟨key, hkey, -⟩ := of_checkSignature hsigned
  exact ⟨key, hkey, hpasses key (ofBytes?_of_binds hkey hbinds)⟩

namespace SlotTable

/-- A document with a signature has no code. -/
theorem verifyMac_signed (document : Bytes) :
    verifyMac slot (Envelope.signed seed document).sealedBytes t
      = .error ⟨.failed .hmac (.notAuthenticated .signature), t⟩ := by
  rw [verifyMac, Envelope.decode_sealedBytes (Envelope.isTag_signed seed document), mapError_ok,
    bind_eq (step_ok _ _), Envelope.kind_signed, if_pos (by decide)]
  rfl

end SlotTable

namespace PlacedCall

theorem performs_certificate (slot : SlotId) (w : World) :
    Performs ⟨.certificate slot, w⟩ (do return (← SlotTable.identity slot).2) .text :=
  ⟨fun _ => ⟨w, rfl⟩⟩

/-- A certificate that is checked whatever the time needs no host. -/
theorem performs_verifyCertificate (slot : SlotId) (isPeer : Bool) (text : String) (w : World) :
    Performs ⟨.verifyCertificate slot isPeer text false, w⟩
      (SlotTable.verifyCertificate slot isPeer text none) fun _ => .done :=
  ⟨fun _ => ⟨w, rfl⟩⟩

theorem performs_sign (slot : SlotId) (document : Bytes) (w : World) :
    Performs ⟨.sign slot document, w⟩ (SlotTable.sign slot document) .bytes :=
  ⟨fun _ => ⟨w, rfl⟩⟩

theorem certificate_eq (hslot : t.material? slot = some (.identity seed certificate)) :
    answer ⟨.certificate slot, w⟩ t = .ok (.text certificate) :=
  ((performs_certificate slot w).of_ok (SlotTable.bind_eq (SlotTable.identity_eq hslot))).1

/-- Signing fails for want of a buffer only. -/
theorem sign_eq (hslot : t.material? slot = some (.identity seed certificate)) {document : Bytes}
    (hlength : document.length ≤ Buffer.mostCapacity) :
    answer ⟨.sign slot document, w⟩ t
      = if document.length + 224 ≤ Buffer.mostCapacity then
          .ok (.bytes (Envelope.signed seed document).sealedBytes)
        else .error (.failed .signing (.sealing (.reserve ⟨document.length + 224⟩))) := by
  have hencode : (Envelope.signed seed document).encode
      = if document.length + 224 ≤ Buffer.mostCapacity then
          .ok (Envelope.signed seed document).sealedBytes
        else .error (.reserve ⟨document.length + 224⟩) :=
    Envelope.encode_eq (Envelope.isTag_iff.1 (Envelope.isTag_signed seed document)) hlength
  have hsign := SlotTable.sign_eq hslot document
  rw [hencode] at hsign
  by_cases hsize : document.length + 224 ≤ Buffer.mostCapacity
  · rw [if_pos hsize] at hsign ⊢
    exact ((performs_sign slot document w).of_ok hsign).1
  · rw [if_neg hsize] at hsign ⊢
    exact (performs_sign slot document w).of_error hsign

theorem verifyCertificate_eq {c : Certificate}
    (hslot : t.material? slot = some (.identity seed certificate))
    (hparse : Certificate.parse certificate = .ok c) (hsigned : c.checkSignature = .ok ())
    (hbinds : c.binds (Ed25519.publicKey seed) = true) :
    answer ⟨.verifyCertificate slot false certificate false, w⟩ t = .ok .done := by
  have hcheck := SlotTable.verifyCertificate_eq hslot certificate none
  rw [SlotTable.vouch_none hparse hsigned] at hcheck
  simp only [hbinds, if_true] at hcheck
  exact ((performs_verifyCertificate slot false certificate w).of_ok hcheck).1

theorem verifySignature_eq {document : Bytes} (h : verifySignature certificate document = .ok ()) :
    answer ⟨.verifySignature certificate document, w⟩ t = .ok .done := by
  change (verifySignature certificate document).map _ = _
  rw [h]
  rfl

end PlacedCall

/-- **Identities vouch for their signatures.** Whatever has happened to a service, the certificate of a
live identity can be read, is signed by the key it names, names the key in the slot, and is accepted
for the slot. Every document is signed under the slot; a buffer of more than 2⁶³ - 1 bytes is all that
is ever refused. The signed document is accepted under the certificate as far as the signature scheme
goes, whatever the document holds, armour blocks included. It is not taken for one with a code, under
any slot. -/
theorem identity_vouches_for_signatures (past : List PlacedCall) (slot : SlotId) (seed : Octets 32)
    (certificate : String)
    (hslot : (SlotTable.after {} past).material? slot = some (.identity seed certificate)) :
    let t := SlotTable.after {} past
    (∃ c, Certificate.parse certificate = .ok c ∧ c.checkSignature = .ok ()
        ∧ c.binds (Ed25519.publicKey seed) = true)
      ∧ (∀ w, PlacedCall.answer ⟨.certificate slot, w⟩ t = .ok (.text certificate))
      ∧ (∀ w, PlacedCall.answer ⟨.verifyCertificate slot false certificate false, w⟩ t = .ok .done)
      ∧ ∀ document : Bytes, document.length ≤ Buffer.mostCapacity →
        let s := (Envelope.signed seed document).sealedBytes
        (∀ w, PlacedCall.answer ⟨.sign slot document, w⟩ t
            = if document.length + 224 ≤ Buffer.mostCapacity then .ok (.bytes s)
              else .error (.failed .signing (.sealing (.reserve ⟨document.length + 224⟩))))
          ∧ (Ed25519.Passes seed document →
            ∀ w, PlacedCall.answer ⟨.verifySignature certificate s, w⟩ t = .ok .done)
          ∧ ∀ other w, PlacedCall.answer ⟨.verifyMac other s, w⟩ t
            = .error (.failed .hmac (.notAuthenticated .signature)) := by
  intro t
  have ht : t.Vouched := SlotTable.after_vouched SlotTable.Vouched.empty past
  obtain ⟨c, hparse, hsigned, hbinds⟩ := ht.of_material? hslot
  refine ⟨⟨c, hparse, hsigned, hbinds⟩, ?_, ?_, ?_⟩
  · intro w
    exact PlacedCall.certificate_eq hslot
  · intro w
    exact PlacedCall.verifyCertificate_eq hslot hparse hsigned hbinds
  · intro document hlength s
    refine ⟨fun w => PlacedCall.sign_eq hslot hlength, ?_, ?_⟩
    · intro hpasses w
      have haccepts := Certificate.accepts_of_passes hsigned hbinds hpasses
      apply PlacedCall.verifySignature_eq
      exact (verifySignature_signed_iff hparse hsigned seed document).2 haccepts
    · intro other w
      exact (PlacedCall.performs_verifyMac other s w).of_error (SlotTable.verifyMac_signed document)

/-- A document that is a sealed document itself is signed under a loaded identity and accepted. -/
theorem identity_vouches_for_signatures_sample :
    let w : World :=
      { World.bare with files := ⟨[([textBytes "k"], .file Keystore.sample.toBytes)], []⟩ }
    let t := SlotTable.after {} [⟨.initialise, w⟩, ⟨.loadIdentity (.ofString "k"), w⟩]
    let document := Envelope.sealedBytes ⟨[1], .mac, "00"⟩
    ∃ seed certificate s, t.material? ⟨1⟩ = some (.identity seed certificate)
      ∧ Ed25519.Passes seed document
      ∧ PlacedCall.answer ⟨.sign ⟨1⟩ document, w⟩ t = .ok (.bytes s)
      ∧ PlacedCall.answer ⟨.verifySignature certificate s, w⟩ t = .ok .done
      ∧ PlacedCall.answer ⟨.verifyMac ⟨1⟩ s, w⟩ t
        = .error (.failed .hmac (.notAuthenticated .signature)) := by
  intro w t document
  have hslot : t.material? ⟨1⟩
      = some (.identity Keystore.sample.seed Keystore.sample.certificate) := by
    have hload : Keystore.load (.ofString "k") (w.files.read (.ofString "k")) = .ok Keystore.sample :=
      Keystore.load_sample _
    have hnext := PlacedCall.next_loadIdentity (t := SlotTable.initialise {}) ⟨rfl, by decide⟩ hload
    exact (congrArg (fun t => SlotTable.material? t ⟨1⟩) hnext).trans
      (SlotTable.material?_fill_next _ _)
  have hpasses : Ed25519.Passes Keystore.sample.seed document := by decide +kernel
  have hlength : document.length ≤ 1000 := by decide +kernel
  have hmost : 1000 + 224 ≤ Buffer.mostCapacity := by decide
  obtain ⟨-, -, -, hdocuments⟩ := identity_vouches_for_signatures _ _ _ _ hslot
  obtain ⟨hsign, hsignature, hmac⟩ := hdocuments document (by omega)
  have hsigned := hsign w
  rw [if_pos (by omega)] at hsigned
  exact ⟨_, _, _, hslot, hpasses, hsigned, hsignature hpasses w, hmac ⟨1⟩ w⟩

end ModelProtection
