/-
Operations on a table change everything they mean to, or nothing.

An operation works on its table in place, so what a failure leaves behind is a
question to be asked of each. The answer is the same for all of them, and it has
one reason: an operation asks everything it has to ask before it fills its first
slot, and where it fills two it has asked for room for both. `Yields` says this
of an operation and `Yields.bind` is the rule for the part that only asks. The
second slot of an unwrapping is the one place where the rule does not apply, and
where the room that was asked for is used (`unwrapKey_makes`).

What an operation asks of the slots it is given is kept in what it yields: it
succeeds only on live slots of the roles it wants (`Holds`).
-/
import ModelProtection.Proofs.Crypto.Slots

set_option autoImplicit false

namespace ModelProtection

namespace SlotTable

variable {t : SlotTable} {slot : SlotId} {α β : Type}

/-! ## Outcomes -/

/-- An operation that fails leaves the table as it was, and one that succeeds gives a result and a
table with a property. A structure, so that nothing runs the operation to see what is claimed. -/
structure Yields (x : SlotM α) (t : SlotTable) (post : α → SlotTable → Prop) : Prop where
  outcome : match x t with
    | .ok (a, t') => post a t'
    | .error f => f.table = t

/-- The table has been started and has room for some more slots. -/
def HasRoom (t : SlotTable) (needed : Nat) : Prop :=
  t.initialised = true ∧ t.liveCount + needed ≤ mostLive

/-- A slot is live and holds something of a role. -/
def Holds (t : SlotTable) (slot : SlotId) (role : KeyRole) : Prop :=
  ∃ material, t.material? slot = some material ∧ material.role = role

theorem holds_of_material? {material : KeyMaterial} (h : t.material? slot = some material) :
    t.Holds slot material.role :=
  ⟨material, h, rfl⟩

/-- After a step that succeeds comes the rest. -/
theorem bind_eq {x : SlotM α} {f : α → SlotM β} {a : α} {t₁ : SlotTable} (hx : x t = .ok (a, t₁)) :
    (x >>= f) t = f a t₁ := by
  change ((x t).bind fun p => f p.1 p.2) = _
  rw [hx]
  rfl

/-- A step that fails is the end. -/
theorem bind_eq_error {x : SlotM α} {f : α → SlotM β} {failure : SlotFailure}
    (hx : x t = .error failure) : (x >>= f) t = .error failure := by
  change ((x t).bind fun p => f p.1 p.2) = _
  rw [hx]
  rfl

namespace Yields

variable {x : SlotM α} {f : α → SlotM β} {post : α → SlotTable → Prop}

theorem of_fail {e : CryptoError} : Yields (fail e : SlotM α) t post := ⟨rfl⟩

theorem of_fail_bind {e : CryptoError} {post : β → SlotTable → Prop} :
    Yields (fail e >>= f) t post := ⟨rfl⟩

theorem of_pure {a : α} (h : post a t) : Yields (pure a) t post := ⟨h⟩

theorem of_error {e : CryptoError} (hx : x t = .error ⟨e, t⟩) : Yields x t post := by
  constructor
  rw [hx]

theorem of_ok {a : α} {t' : SlotTable} (hx : x t = .ok (a, t')) (h : post a t') :
    Yields x t post := by
  constructor
  rw [hx]
  exact h

theorem cases (h : Yields x t post) :
    (∃ e, x t = .error ⟨e, t⟩) ∨ ∃ a t', x t = .ok (a, t') ∧ post a t' := by
  have hx := h.outcome
  cases hxt : x t with
  | error failure =>
    rw [hxt] at hx
    subst hx
    exact .inl ⟨failure.error, rfl⟩
  | ok p =>
    rw [hxt] at hx
    exact .inr ⟨p.1, p.2, rfl, hx⟩

theorem of_eq_ok {a : α} {t' : SlotTable} (h : Yields x t post) (hx : x t = .ok (a, t')) :
    post a t' := by
  have hpost := h.outcome
  rw [hx] at hpost
  exact hpost

theorem mono {post' : α → SlotTable → Prop} (h : Yields x t post)
    (hpost : ∀ a t', post a t' → post' a t') : Yields x t post' := by
  rcases h.cases with ⟨e, hx⟩ | ⟨a, t', hx, ha⟩
  · exact of_error hx
  · exact of_ok hx (hpost a t' ha)

/-- A step that only asks is followed by the rest on the same table. -/
theorem bind {ask : α → Prop} {post : β → SlotTable → Prop}
    (hx : Yields x t fun a t' => t' = t ∧ ask a) (hf : ∀ a, ask a → Yields (f a) t post) :
    Yields (x >>= f) t post := by
  rcases hx.cases with ⟨e, hxt⟩ | ⟨a, t', hxt, rfl, ha⟩
  · exact of_error (bind_eq_error hxt)
  · rcases (hf a ha).cases with ⟨e, hft⟩ | ⟨b, t₁, hft, hb⟩
    · exact of_error ((bind_eq hxt).trans hft)
    · exact of_ok ((bind_eq hxt).trans hft) hb

end Yields

/-! ## Steps -/

theorem requireFree_yields (needed : Nat) :
    Yields (requireFree needed) t fun _ t' => t' = t ∧ t.HasRoom needed := by
  by_cases hinit : t.initialised = true
  · by_cases hfull : mostLive < t.liveCount + needed
    · exact Yields.of_error ((requireFree_eq hinit needed).trans (if_pos hfull))
    · refine Yields.of_ok ((requireFree_eq hinit needed).trans (if_neg hfull)) ?_
      exact ⟨rfl, hinit, Nat.le_of_not_lt hfull⟩
  · refine Yields.of_error (e := .failed .slotManagement .notInitialised) ?_
    rw [Bool.not_eq_true] at hinit
    simp only [requireFree, bind, StateT.bind, get, getThe, MonadStateOf.get, StateT.get,
      Except.bind, pure, Except.pure, hinit, Bool.not_false, if_true]
    rfl

/-- A slot is filled if there is room for it. -/
theorem insert_eq_ok {material : KeyMaterial} (h : t.HasRoom 1) :
    insert material t = .ok (t.next, t.fill material) := by
  have hroom : ¬ mostLive < t.liveCount + 1 := Nat.not_lt_of_le h.2
  rw [insert_eq h.1, if_neg hroom]

theorem insert_yields (material : KeyMaterial) :
    Yields (insert material) t fun id t' =>
      id = t.next ∧ t' = t.fill material ∧ t.HasRoom 1 := by
  rw [insert]
  refine (requireFree_yields 1).bind fun _ hroom => ?_
  exact ⟨⟨rfl, rfl, hroom⟩⟩

theorem identity_yields :
    Yields (identity slot) t fun p t' =>
      t' = t ∧ t.material? slot = some (.identity p.1 p.2) := by
  constructor
  rw [identity]
  simp only [bind, StateT.bind, get, getThe, MonadStateOf.get, StateT.get, Except.bind, pure,
    Except.pure]
  -- live with the role that is asked for, live with another one, or not live
  cases hslot : t.material? slot with
  | none => rfl
  | some material =>
    cases material with
    | identity seed certificate => exact ⟨rfl, rfl⟩
    | content key => rfl
    | derived keys => rfl

theorem content_yields :
    Yields (content slot) t fun key t' => t' = t ∧ t.material? slot = some (.content key) := by
  constructor
  rw [content]
  simp only [bind, StateT.bind, get, getThe, MonadStateOf.get, StateT.get, Except.bind, pure,
    Except.pure]
  cases hslot : t.material? slot with
  | none => rfl
  | some material =>
    cases material with
    | identity seed certificate => rfl
    | content key => exact ⟨rfl, rfl⟩
    | derived keys => rfl

theorem derived_yields :
    Yields (derived slot) t fun keys t' => t' = t ∧ t.material? slot = some (.derived keys) := by
  constructor
  rw [derived]
  simp only [bind, StateT.bind, get, getThe, MonadStateOf.get, StateT.get, Except.bind, pure,
    Except.pure]
  cases hslot : t.material? slot with
  | none => rfl
  | some material =>
    cases material with
    | identity seed certificate => rfl
    | content key => rfl
    | derived keys => exact ⟨rfl, rfl⟩

/-- A step that needs no table gives its result. -/
theorem step_yields (operation : CryptoOperation) (result : Except CryptoFailure α) :
    Yields (step operation result) t fun a t' => t' = t ∧ result = .ok a := by
  cases result with
  | error cause => exact Yields.of_fail
  | ok a => exact Yields.of_pure ⟨rfl, rfl⟩

/-- A last step that needs no table keeps what is known about it. -/
theorem step_keeps {p : Prop} (operation : CryptoOperation) (result : Except CryptoFailure α)
    (hp : p) : Yields (step operation result) t fun _ t' => t' = t ∧ p := by
  refine (step_yields operation result).mono ?_
  intro a t' h
  exact ⟨h.1, hp⟩

theorem ofResult_yields (result : Except CryptoError α) :
    Yields (ofResult result) t fun _ t' => t' = t ∧ True := by
  cases result with
  | error e => exact Yields.of_fail
  | ok a => exact Yields.of_pure ⟨rfl, trivial⟩

/-! ## Operations that fill no slot -/

theorem certificate_yields :
    Yields (do return (← identity slot).2 : SlotM String) t fun _ t' =>
      t' = t ∧ t.Holds slot .identity := by
  refine identity_yields.bind fun p hslot => ?_
  exact Yields.of_pure ⟨rfl, holds_of_material? hslot⟩

theorem verifyCertificate_yields (isPeer : Bool) (certificate : String)
    (instant : Option Instant) :
    Yields (verifyCertificate slot isPeer certificate instant) t fun _ t' =>
      t' = t ∧ t.Holds slot .identity := by
  rw [verifyCertificate]
  refine (ofResult_yields _).bind fun c _ => ?_
  refine identity_yields.bind fun p hslot => ?_
  dsimp only
  split
  · exact Yields.of_fail
  · exact Yields.of_pure ⟨rfl, holds_of_material? hslot⟩

/-- Decrypting reads a text and gives what the cipher opens it to. -/
theorem decrypt_makes (text : String) :
    Yields (decrypt slot text) t fun message t' =>
      ∃ s key, Salted.parse text = .ok s ∧ t.material? slot = some (.content key)
        ∧ (DerivedKeys.expand key s.salt .content).decrypt s.body = .ok message ∧ t' = t := by
  rw [decrypt]
  refine (step_yields _ _).bind fun s hparse => ?_
  refine content_yields.bind fun key hslot => ?_
  refine (step_yields _ _).mono ?_
  rintro message t' ⟨rfl, hmessage⟩
  exact ⟨s, key, hparse, hslot, hmessage, rfl⟩

theorem decrypt_yields (text : String) :
    Yields (decrypt slot text) t fun _ t' => t' = t ∧ t.Holds slot .content := by
  refine (decrypt_makes text).mono ?_
  rintro message t' ⟨s, key, -, hslot, -, rfl⟩
  exact ⟨rfl, holds_of_material? hslot⟩

theorem sign_yields (document : Bytes) :
    Yields (sign slot document) t fun _ t' => t' = t ∧ t.Holds slot .identity := by
  rw [sign]
  refine identity_yields.bind fun p hslot => ?_
  exact step_keeps _ _ (holds_of_material? hslot)

theorem authenticate_yields (document : Bytes) :
    Yields (authenticate slot document) t fun _ t' => t' = t ∧ t.Holds slot .derived := by
  rw [authenticate]
  refine derived_yields.bind fun keys hslot => ?_
  exact step_keeps _ _ (holds_of_material? hslot)

/-- Checking a code opens a sealed document, and compares the code in it with that of the document
under the keys in the slot. -/
theorem verifyMac_makes (document : Bytes) :
    Yields (verifyMac slot document) t fun _ t' =>
      ∃ e keys, Envelope.decode document = .ok e ∧ e.kind = .mac
        ∧ Hex.decodeSized 32 (textBytes e.tag) = .ok (keys.mac e.data)
        ∧ t.material? slot = some (.derived keys) ∧ t' = t := by
  rw [verifyMac]
  refine (step_yields _ _).bind fun e hdecode => ?_
  dsimp only
  by_cases hkind : e.kind ≠ .mac
  · rw [if_pos hkind]
    exact Yields.of_fail_bind
  rw [if_neg hkind]
  refine (step_yields _ _).bind fun code hcode => ?_
  refine derived_yields.bind fun keys hslot => ?_
  by_cases hmac : keys.mac e.data ≠ code
  · rw [if_pos hmac]
    exact Yields.of_fail
  rw [if_neg hmac]
  refine Yields.of_pure ⟨e, keys, mapError_eq_ok_iff.1 hdecode, Decidable.not_not.1 hkind, ?_, hslot, rfl⟩
  rw [Decidable.not_not.1 hmac]
  exact mapError_eq_ok_iff.1 hcode

theorem verifyMac_yields (document : Bytes) :
    Yields (verifyMac slot document) t fun _ t' => t' = t ∧ t.Holds slot .derived := by
  refine (verifyMac_makes document).mono ?_
  rintro _ t' ⟨e, keys, -, -, -, hslot, rfl⟩
  exact ⟨rfl, holds_of_material? hslot⟩

/-! ## Operations that fill slots -/

/-- Encrypting gives the written form of what the cipher makes, and fills a slot with the keys. -/
theorem encrypt_makes (salt : Octets DerivedKeys.saltSize) (message : Bytes) :
    Yields (encrypt salt slot message) t fun p t' =>
      ∃ key body, t.HasRoom 1 ∧ t.material? slot = some (.content key)
        ∧ (DerivedKeys.expand key salt .content).encrypt message = .ok body
        ∧ p = (Salted.write ⟨salt, body⟩, t.next)
        ∧ t' = t.fill (.derived (DerivedKeys.expand key salt .content)) := by
  rw [encrypt]
  refine (requireFree_yields 1).bind fun _ hroom => ?_
  refine content_yields.bind fun key hslot => ?_
  refine (step_yields _ _).bind fun body hbody => ?_
  refine Yields.of_ok (bind_eq (insert_eq_ok hroom)) ?_
  exact ⟨key, body, hroom, hslot, hbody, rfl, rfl⟩

/-- Wrapping gives the written form of what the cipher makes of the key, and fills a slot with the keys
that were derived for it. -/
theorem wrapKey_makes (salt : Octets DerivedKeys.saltSize) {identitySlot contentSlot : SlotId} :
    Yields (wrapKey salt identitySlot contentSlot) t fun p t' =>
      ∃ seed certificate key body, t.HasRoom 1
        ∧ t.material? identitySlot = some (.identity seed certificate)
        ∧ t.material? contentSlot = some (.content key)
        ∧ (DerivedKeys.expand seed salt .wrap).encrypt key.toList = .ok body
        ∧ p = (Salted.write ⟨salt, body⟩, t.next)
        ∧ t' = t.fill (.derived (DerivedKeys.expand seed salt .wrap)) := by
  rw [wrapKey]
  refine (requireFree_yields 1).bind fun _ hroom => ?_
  refine identity_yields.bind fun p hidentity => ?_
  dsimp only
  refine content_yields.bind fun key hcontent => ?_
  refine (step_yields _ _).bind fun body hbody => ?_
  refine Yields.of_ok (bind_eq (insert_eq_ok hroom)) ?_
  exact ⟨p.1, p.2, key, body, hroom, hidentity, hcontent, hbody, rfl, rfl⟩

/-- Room for one more slot is what is left of room for two when one was filled. -/
theorem hasRoom_fill (h : t.HasRoom 2) (material : KeyMaterial) : (t.fill material).HasRoom 1 :=
  ⟨h.1, h.2⟩

/-- Unwrapping fills a slot with the key that the cipher opens the text to and another with the keys
that were derived for it. The first is filled before the second, and there is no way to fail in
between: room for both was asked for. -/
theorem unwrapKey_makes (text : String) :
    Yields (unwrapKey slot text) t fun p t' =>
      ∃ s seed certificate key, t.HasRoom 2 ∧ Salted.parse text = .ok s
        ∧ t.material? slot = some (.identity seed certificate)
        ∧ (DerivedKeys.expand seed s.salt .wrap).decrypt s.body = .ok key.toList
        ∧ p = (t.next, (t.fill (.content key)).next)
        ∧ t' = (t.fill (.content key)).fill (.derived (DerivedKeys.expand seed s.salt .wrap)) := by
  rw [unwrapKey]
  refine (step_yields _ _).bind fun s hparse => ?_
  refine (requireFree_yields 2).bind fun _ hroom => ?_
  refine identity_yields.bind fun p hslot => ?_
  dsimp only
  refine (step_yields _ _).bind fun message hmessage => ?_
  cases hkey : Octets.ofList? 32 message with
  | none => exact Yields.of_fail
  | some key =>
    rw [← Octets.ofList?_eq_some_iff.1 hkey] at hmessage
    have hroom₁ : t.HasRoom 1 := ⟨hroom.1, Nat.le_of_succ_le hroom.2⟩
    refine Yields.of_ok ((bind_eq (insert_eq_ok hroom₁)).trans
      (bind_eq (insert_eq_ok (hasRoom_fill hroom _)))) ?_
    exact ⟨s, p.1, p.2, key, hroom, hparse, hslot, hmessage, rfl, rfl⟩

theorem unwrapKey_yields (text : String) :
    Yields (unwrapKey slot text) t fun p t' =>
      (∃ material material', p = (t.next, (t.fill material).next)
        ∧ t' = (t.fill material).fill material') ∧ t.HasRoom 2 ∧ t.Holds slot .identity := by
  refine (unwrapKey_makes text).mono ?_
  rintro p t' ⟨s, seed, certificate, key, hroom, -, hslot, -, rfl, rfl⟩
  exact ⟨⟨_, _, rfl, rfl⟩, hroom, holds_of_material? hslot⟩

end SlotTable

end ModelProtection
