/-
What the operations on a table of slots do.

Every operation is a chain of checks with at most two insertions at its end. The
equations here say, for slots that hold what the operation wants of them, which
check decides and what table is left. A slot that is filled gets a number that is
larger than the count of those before it, so it is never one of the slots that
are named already (`material?_fill_of_le`).
-/
import ModelProtection.Crypto.SlotTable
import ModelProtection.Proofs.Crypto.Cipher
import ModelProtection.Proofs.Envelope

set_option autoImplicit false

namespace ModelProtection

/-! ## What is sealed -/

namespace Envelope

/-- A document with its signature under the key of a seed. -/
def signed (seed : Octets 32) (document : Bytes) : Envelope :=
  ⟨document, .signature, Hex.encode (Ed25519.sign seed document).toList⟩

/-- A document with its code under derived keys. -/
def authenticated (keys : DerivedKeys) (document : Bytes) : Envelope :=
  ⟨document, .mac, Hex.encode (keys.mac document).toList⟩

@[simp] theorem data_signed (seed : Octets 32) (document : Bytes) :
    (signed seed document).data = document := rfl

@[simp] theorem kind_signed (seed : Octets 32) (document : Bytes) :
    (signed seed document).kind = .signature := rfl

@[simp] theorem tag_signed (seed : Octets 32) (document : Bytes) :
    (signed seed document).tag = Hex.encode (Ed25519.sign seed document).toList := rfl

@[simp] theorem data_authenticated (keys : DerivedKeys) (document : Bytes) :
    (authenticated keys document).data = document := rfl

@[simp] theorem kind_authenticated (keys : DerivedKeys) (document : Bytes) :
    (authenticated keys document).kind = .mac := rfl

@[simp] theorem tag_authenticated (keys : DerivedKeys) (document : Bytes) :
    (authenticated keys document).tag = Hex.encode (keys.mac document).toList := rfl

theorem isTag_octets {n : Nat} (hpos : 0 < n) (hmost : n ≤ 64) (o : Octets n) :
    isTag (Hex.encode o.toList).toList = true := by
  refine isTag_hex ?_ (by rw [o.length_toList]; exact hmost)
  intro h
  have := o.length_toList
  rw [h, List.length_nil] at this
  omega

theorem isTag_signed (seed : Octets 32) (document : Bytes) :
    isTag (signed seed document).tag.toList = true :=
  isTag_octets (by decide) (by decide) _

theorem isTag_authenticated (keys : DerivedKeys) (document : Bytes) :
    isTag (authenticated keys document).tag.toList = true :=
  isTag_octets (by decide) (by decide) _

end Envelope

namespace SlotTable

/-! ## The life of slots -/

/-- The name of the slot that is filled next. -/
def next (t : SlotTable) : SlotId := ⟨t.issued + 1⟩

/-- The table with one more slot. -/
def fill (t : SlotTable) (material : KeyMaterial) : SlotTable :=
  { t with issued := t.issued + 1, live := (t.next, material) :: t.live }

@[simp] theorem liveCount_fill (t : SlotTable) (material : KeyMaterial) :
    (t.fill material).liveCount = t.liveCount + 1 := rfl

@[simp] theorem material?_fill_next (t : SlotTable) (material : KeyMaterial) :
    (t.fill material).material? t.next = some material := by
  simp [material?, fill]

theorem material?_fill_of_le {t : SlotTable} {slot : SlotId} (h : slot.number ≤ t.issued)
    (material : KeyMaterial) : (t.fill material).material? slot = t.material? slot := by
  -- the new slot has a number that was never given out
  have hne : (slot == t.next) = false := by
    refine beq_false_of_ne fun he => ?_
    rw [he, next] at h
    exact absurd h (Nat.not_succ_le_self _)
  simp only [material?, fill, List.lookup_cons, hne]

theorem liveCount_clear_fill_le (t : SlotTable) (material : KeyMaterial) :
    ((t.fill material).clear t.next).liveCount ≤ t.liveCount := by
  simp only [liveCount, clear, fill]
  rw [List.filter_cons_of_neg (by simp)]
  exact List.length_filter_le _ _

theorem material?_clear_of_ne {t : SlotTable} {slot other : SlotId} (h : other ≠ slot) :
    (t.clear slot).material? other = t.material? other := by
  simp only [material?, clear]
  induction t.live with
  | nil => rfl
  | cons e live ih =>
    obtain ⟨s, material⟩ := e
    -- an entry is either one of those that go, and then not the one looked up, or it stays
    by_cases hs : s = slot
    · have hne : (other == s) = false := beq_false_of_ne (by rw [hs]; exact h)
      rw [List.filter_cons_of_neg (by simp [hs]), ih, List.lookup_cons, hne]
    · rw [List.filter_cons_of_pos (by simp [hs]), List.lookup_cons, List.lookup_cons, ih]

/-- Filling a slot and clearing it again does not touch those that are named already. -/
theorem material?_clear_fill {t : SlotTable} {slot : SlotId} (h : slot.number ≤ t.issued)
    (material : KeyMaterial) :
    ((t.fill material).clear t.next).material? slot = t.material? slot := by
  have hne : slot ≠ t.next := by
    rintro rfl
    exact absurd h (Nat.not_succ_le_self _)
  rw [material?_clear_of_ne hne, material?_fill_of_le h]

/-- Filling a slot and clearing it again leaves the slots as they were. -/
theorem live_clear_fill {t : SlotTable} (h : ∀ e ∈ t.live, e.1.number ≤ t.issued)
    (material : KeyMaterial) : ((t.fill material).clear t.next).live = t.live := by
  simp only [clear, fill]
  rw [List.filter_cons_of_neg (by simp)]
  refine List.filter_eq_self.2 fun e he => ?_
  have hle := h e he
  simp only [decide_eq_true_eq]
  intro hs
  rw [hs, next] at hle
  exact absurd hle (Nat.not_succ_le_self _)

/-! ## Checks -/

variable {t : SlotTable} {slot : SlotId}

theorem requireFree_eq (h : t.initialised = true) (needed : Nat) :
    requireFree needed t
      = if mostLive < t.liveCount + needed then .error ⟨.slotsExhausted t.liveCount, t⟩
        else .ok ((), t) := by
  simp only [requireFree, bind, StateT.bind, get, getThe, MonadStateOf.get, StateT.get, Except.bind,
    pure, Except.pure, h, Bool.not_true, Bool.false_eq_true, if_false]
  split <;> rfl

theorem insert_eq (h : t.initialised = true) (material : KeyMaterial) :
    insert material t
      = if mostLive < t.liveCount + 1 then .error ⟨.slotsExhausted t.liveCount, t⟩
        else .ok (t.next, t.fill material) := by
  simp only [insert, bind, StateT.bind, requireFree_eq h]
  split <;> rfl

theorem identity_eq {seed : Octets 32} {certificate : String}
    (h : t.material? slot = some (.identity seed certificate)) :
    identity slot t = .ok ((seed, certificate), t) := by
  simp only [identity, bind, StateT.bind, get, getThe, MonadStateOf.get, StateT.get, Except.bind,
    pure, Except.pure, h]
  rfl

theorem content_eq {key : Octets 32} (h : t.material? slot = some (.content key)) :
    content slot t = .ok (key, t) := by
  simp only [content, bind, StateT.bind, get, getThe, MonadStateOf.get, StateT.get, Except.bind,
    pure, Except.pure, h]
  rfl

theorem derived_eq {keys : DerivedKeys} (h : t.material? slot = some (.derived keys)) :
    derived slot t = .ok (keys, t) := by
  simp only [derived, bind, StateT.bind, get, getThe, MonadStateOf.get, StateT.get, Except.bind,
    pure, Except.pure, h]
  rfl

theorem ofResult_ok {α : Type} (a : α) : ofResult (.ok a) t = .ok (a, t) := rfl

theorem step_ok {α : Type} (operation : CryptoOperation) (a : α) :
    step operation (.ok a) t = .ok (a, t) := rfl

/-! ## Operations that make something -/

theorem verifyCertificate_eq {seed : Octets 32} {own : String}
    (h : t.material? slot = some (.identity seed own)) (certificate : String)
    (instant : Option Instant) :
    verifyCertificate slot false certificate instant t
      = match vouch certificate instant with
        | .error e => .error ⟨e, t⟩
        | .ok c =>
          if c.binds (Ed25519.publicKey seed) then .ok ((), t)
          else .error ⟨.failed .certificateVerification .foreignCertificate, t⟩ := by
  simp only [verifyCertificate, bind, StateT.bind]
  cases vouch certificate instant with
  | error e => rfl
  | ok c =>
    simp only [ofResult_ok, Except.bind, identity_eq h, Bool.not_false, Bool.true_and]
    cases c.binds (Ed25519.publicKey seed) <;> rfl

/-- Encrypting is decided by the room in the table and the length of the message. -/
theorem encrypt_eq {key : Octets 32} (hinit : t.initialised = true)
    (h : t.material? slot = some (.content key)) (salt : Octets DerivedKeys.saltSize)
    (message : Bytes) :
    encrypt salt slot message t
      = if mostLive < t.liveCount + 1 then .error ⟨.slotsExhausted t.liveCount, t⟩
        else
          match (DerivedKeys.expand key salt .content).encrypt message with
          | .error e => .error ⟨.failed .encryption e, t⟩
          | .ok body =>
            .ok ((Salted.write ⟨salt, body⟩, t.next),
              t.fill (.derived (DerivedKeys.expand key salt .content))) := by
  simp only [encrypt, bind, StateT.bind, requireFree_eq hinit]
  -- the room is asked for twice, before the work and at the insertion; the answer is the same
  by_cases hfull : mostLive < t.liveCount + 1
  · rw [if_pos hfull, if_pos hfull]
    rfl
  · rw [if_neg hfull, if_neg hfull]
    simp only [Except.bind, content_eq h]
    cases (DerivedKeys.expand key salt .content).encrypt message with
    | error e => rfl
    | ok body =>
      simp only [step_ok, insert_eq hinit]
      rw [if_neg hfull]
      rfl

/-- Wrapping is decided by the room in the table alone: a content key is never too long. -/
theorem wrapKey_eq {identitySlot contentSlot : SlotId} {seed key : Octets 32} {certificate : String}
    (hinit : t.initialised = true)
    (hidentity : t.material? identitySlot = some (.identity seed certificate))
    (hcontent : t.material? contentSlot = some (.content key)) (salt : Octets DerivedKeys.saltSize) :
    ∃ body, (DerivedKeys.expand seed salt .wrap).encrypt key.toList = .ok body
      ∧ wrapKey salt identitySlot contentSlot t
        = if mostLive < t.liveCount + 1 then .error ⟨.slotsExhausted t.liveCount, t⟩
          else
            .ok ((Salted.write ⟨salt, body⟩, t.next),
              t.fill (.derived (DerivedKeys.expand seed salt .wrap))) := by
  -- a content key has 32 bytes, so the cipher cannot refuse it
  have hshort : Aead.tooLong key.toList.length = false := by
    rw [key.length_toList]
    decide
  obtain ⟨body, hbody⟩ := DerivedKeys.encrypt_eq_ok (k := DerivedKeys.expand seed salt .wrap) hshort
  refine ⟨body, hbody, ?_⟩
  simp only [wrapKey, bind, StateT.bind, requireFree_eq hinit]
  by_cases hfull : mostLive < t.liveCount + 1
  · rw [if_pos hfull, if_pos hfull]
    rfl
  · rw [if_neg hfull, if_neg hfull]
    simp only [Except.bind, identity_eq hidentity, content_eq hcontent, hbody, step_ok,
      insert_eq hinit]
    rw [if_neg hfull]
    rfl

theorem sign_eq {seed : Octets 32} {certificate : String}
    (h : t.material? slot = some (.identity seed certificate)) (document : Bytes) :
    sign slot document t
      = match (Envelope.signed seed document).encode with
        | .error e => .error ⟨.failed .signing (.sealing e), t⟩
        | .ok bytes => .ok (bytes, t) := by
  have hsign : sign slot document t
      = step .signing ((Envelope.signed seed document).encode.mapError .sealing) t := by
    simp only [sign, bind, StateT.bind, identity_eq h, Except.bind]
    rfl
  rw [hsign]
  cases (Envelope.signed seed document).encode <;> rfl

theorem authenticate_eq {keys : DerivedKeys} (h : t.material? slot = some (.derived keys))
    (document : Bytes) :
    authenticate slot document t
      = match (Envelope.authenticated keys document).encode with
        | .error e => .error ⟨.failed .hmac (.sealing e), t⟩
        | .ok bytes => .ok (bytes, t) := by
  have hmac : authenticate slot document t
      = step .hmac ((Envelope.authenticated keys document).encode.mapError .sealing) t := by
    simp only [authenticate, bind, StateT.bind, derived_eq h, Except.bind]
    rfl
  rw [hmac]
  cases (Envelope.authenticated keys document).encode <;> rfl

/-! ## Operations that take it apart again -/

/-- Decrypting a text that can be read is decided by the cipher. -/
theorem decrypt_eq {key : Octets 32} (h : t.material? slot = some (.content key)) {text : String}
    {salt : Octets DerivedKeys.saltSize} {body : Bytes}
    (hparse : Salted.parse text = .ok ⟨salt, body⟩) :
    decrypt slot text t
      = match (DerivedKeys.expand key salt .content).decrypt body with
        | .error e => .error ⟨.failed .decryption e, t⟩
        | .ok message => .ok (message, t) := by
  simp only [decrypt, bind, StateT.bind, hparse, step_ok, Except.bind, content_eq h]
  cases (DerivedKeys.expand key salt .content).decrypt body <;> rfl

/-- A text that the cipher opens to a key is unwrapped, if two slots are free. -/
theorem unwrapKey_of_decrypt {seed key : Octets 32} {certificate text : String}
    (hinit : t.initialised = true) (hroom : t.liveCount + 2 ≤ mostLive)
    (h : t.material? slot = some (.identity seed certificate))
    {salt : Octets DerivedKeys.saltSize} {body : Bytes}
    (hparse : Salted.parse text = .ok ⟨salt, body⟩)
    (hkey : (DerivedKeys.expand seed salt .wrap).decrypt body = .ok key.toList) :
    unwrapKey slot text t
      = .ok ((t.next, (t.fill (.content key)).next),
          (t.fill (.content key)).fill (.derived (DerivedKeys.expand seed salt .wrap))) := by
  -- room for both is asked for at the start, then for each at its insertion
  have hfree₂ : ¬ mostLive < t.liveCount + 2 := by omega
  have hfree₁ : ¬ mostLive < t.liveCount + 1 := by omega
  have hfree₁' : ¬ mostLive < (t.fill (.content key)).liveCount + 1 := by
    rw [liveCount_fill]
    omega
  simp only [unwrapKey, bind, StateT.bind, hparse, step_ok, Except.bind, requireFree_eq hinit, hfree₂,
    if_false, identity_eq h, hkey, Octets.ofList?_toList, insert_eq hinit, hfree₁,
    insert_eq (t := t.fill (.content key)) hinit, hfree₁']
  rfl

/-- A sealed document in which the code of the document is found is accepted. -/
theorem verifyMac_of_decode {keys : DerivedKeys} (h : t.material? slot = some (.derived keys))
    {s : Bytes} {e : Envelope} (hdecode : Envelope.decode s = .ok e) (hkind : e.kind = .mac)
    (hcode : Hex.decodeSized 32 (textBytes e.tag) = .ok (keys.mac e.data)) :
    verifyMac slot s t = .ok ((), t) := by
  simp only [verifyMac, bind, StateT.bind, hdecode, hkind, hcode, mapError_ok, step_ok, Except.bind,
    ne_eq, not_true_eq_false, if_false, pure, derived_eq h]
  rfl

/-- A document with its code is accepted under the keys of the code. -/
theorem verifyMac_authenticated {keys : DerivedKeys} (h : t.material? slot = some (.derived keys))
    (document : Bytes) :
    verifyMac slot (Envelope.authenticated keys document).sealedBytes t = .ok ((), t) :=
  verifyMac_of_decode h (Envelope.decode_sealedBytes (Envelope.isTag_authenticated keys document)) rfl
    (Hex.decodeSized_encode _)

end SlotTable

/-- Whether a document with its signature is accepted is decided by the key that the certificate
names. -/
theorem verifySignature_signed {certificate : String} {c : Certificate}
    {key : Ed25519.VerifyingKey} (hparse : Certificate.parse certificate = .ok c)
    (hkey : c.key = .ok key) (seed : Octets 32) (document : Bytes) :
    verifySignature certificate (Envelope.signed seed document).sealedBytes
      = if key.verify document (Ed25519.sign seed document) then .ok ()
        else .error (.failed .signatureVerification .badSignature) := by
  simp only [verifySignature, hparse, hkey, mapError_ok, bind, Except.bind,
    Envelope.decode_sealedBytes (Envelope.isTag_signed seed document), Envelope.data_signed,
    Envelope.kind_signed, Envelope.tag_signed, ne_eq, not_true_eq_false, if_false,
    Hex.decodeSized_encode, pure, Except.pure]
  rfl

/-- A certificate accepts what is signed with a seed: it names a key, and the key verifies the
signature. -/
def Certificate.Accepts (c : Certificate) (seed : Octets 32) (message : Bytes) : Prop :=
  ∃ key, c.key = .ok key ∧ key.verify message (Ed25519.sign seed message) = true

/-- A document with its signature is accepted if and only if the certificate accepts the signature. -/
theorem verifySignature_signed_iff {certificate : String} {c : Certificate}
    (hparse : Certificate.parse certificate = .ok c) (hsigned : c.checkSignature = .ok ())
    (seed : Octets 32) (document : Bytes) :
    verifySignature certificate (Envelope.signed seed document).sealedBytes = .ok ()
      ↔ c.Accepts seed document := by
  -- a certificate that is signed by the key it names does name a key
  obtain ⟨key, hkey, -⟩ := eq_ok_of_bind hsigned
  rw [verifySignature_signed hparse hkey]
  constructor
  · intro haccepted
    split at haccepted
    · rename_i hverify
      exact ⟨key, hkey, hverify⟩
    · cases haccepted
  · rintro ⟨key', hkey', hverify⟩
    rw [hkey] at hkey'
    cases hkey'
    rw [if_pos hverify]

end ModelProtection
