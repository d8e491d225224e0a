/-
Unwrapping undoes wrapping, in the same service or another.

A wrapped key is a text that carries the key under an identity, so all that was
said of ciphertexts holds here again: it is unwrapped under every slot with that
identity, and nothing else is unwrapped there (`PlacedCall.unwrapKey_eq_ok_iff`).

Two slots with the same content key open each other's ciphertexts
(`SlotTable.opens_of_content`) and two with the same derived keys accept each
other's codes (`SlotTable.accepts_of_derived`). Both are said of a slot in one
table and a slot in another, and ask nothing of the tables but what the slots
hold. That a slot holds the same as long as it is live carries them to any two
points in the histories of the two services (`SlotTable.MatchedBy`).
-/
import ModelProtection.Proofs.Crypto.RoundTrip
import ModelProtection.Proofs.Envelope.Exact
import ModelProtection.Proofs.Keystore

set_option autoImplicit false

namespace ModelProtection

variable {t t' : SlotTable} {w : World} {slot slot' : SlotId}

/-! ## Slots that agree -/

namespace SlotTable

/-- What is encrypted under one slot is decrypted under another. -/
def Opens (t' : SlotTable) (slot' : SlotId) (t : SlotTable) (slot : SlotId) : Prop :=
  ∀ (message : Bytes) (w w' : World) (text : String) (derived : SlotId),
    PlacedCall.answer ⟨.encrypt slot message, w⟩ t = .ok (.textAndSlot text derived) →
    PlacedCall.answer ⟨.decrypt slot' text, w'⟩ t' = .ok (.bytes message)

/-- Every document is sealed with a code under one slot, if its sealed form is not too large for a
buffer, and the code is accepted under another. -/
def Accepts (t' : SlotTable) (slot' : SlotId) (t : SlotTable) (slot : SlotId) : Prop :=
  ∀ (document : Bytes) (w : World),
    (document.length + 224 ≤ Buffer.mostCapacity →
        ∃ s, PlacedCall.answer ⟨.authenticate slot document, w⟩ t = .ok (.bytes s))
      ∧ ∀ (s : Bytes) (w' : World),
        PlacedCall.answer ⟨.authenticate slot document, w⟩ t = .ok (.bytes s) →
        PlacedCall.answer ⟨.verifyMac slot' s, w'⟩ t' = .ok .done

theorem opens_of_content {key : Octets 32} (h' : t'.material? slot' = some (.content key))
    (h : t.material? slot = some (.content key)) : t'.Opens slot' t slot := by
  intro message w w' text derived hanswer
  obtain ⟨key', body, hslot, hbody, rfl⟩ := PlacedCall.exists_of_encrypt hanswer
  rw [h] at hslot
  cases hslot
  exact (PlacedCall.decrypt_eq_ok_iff h').2 ⟨_, Salted.carries_write hbody⟩

/-- A document is sealed with its code where there is room for it. -/
theorem authenticate_of_derived {keys : DerivedKeys} (h : t.material? slot = some (.derived keys))
    {document : Bytes}
    (hsize : document.length + Envelope.mostTag + Envelope.armourSize ≤ Buffer.mostCapacity) :
    PlacedCall.answer ⟨.authenticate slot document, w⟩ t
      = .ok (.bytes (Envelope.authenticated keys document).sealedBytes) := by
  have htag := Envelope.isTag_iff.1 (Envelope.isTag_authenticated keys document)
  have hmac := authenticate_eq h document
  rw [Envelope.encode_eq_ok (Envelope.length_textBytes_tag htag) hsize] at hmac
  exact ((PlacedCall.performs_authenticate slot document w).of_ok hmac).1

theorem accepts_of_derived {keys : DerivedKeys} (h' : t'.material? slot' = some (.derived keys))
    (h : t.material? slot = some (.derived keys)) : t'.Accepts slot' t slot := by
  intro document w
  refine ⟨?_, ?_⟩
  · intro hsize
    exact ⟨_, authenticate_of_derived h hsize⟩
  · intro s w' hanswer
    have hmac := authenticate_eq h document
    obtain ⟨s', hx, heq⟩ := (PlacedCall.performs_authenticate slot document w).of_answer hanswer
    cases heq
    -- what was sealed is the document with its code, which is all that the other side looks at
    cases hencode : (Envelope.authenticated keys document).encode with
    | error e =>
      rw [hmac, hencode] at hx
      cases hx
    | ok bytes =>
      rw [hmac, hencode] at hx
      obtain ⟨rfl, -⟩ := Prod.mk.inj (Except.ok.inj hx)
      rw [Envelope.eq_of_encode hencode]
      exact ((PlacedCall.performs_verifyMac slot' _ w').of_ok (verifyMac_authenticated h' document)).1

/-- Of a slot in one service and a slot in another, each has a relation to the other at any two points
in the histories of the services at which both are live. -/
def MatchedBy (relation : SlotTable → SlotId → SlotTable → SlotId → Prop)
    (history : List PlacedCall) (slot : SlotId) (history' : List PlacedCall) (slot' : SlotId) : Prop :=
  ∀ run run', run <+: history → run' <+: history' →
    let t := after {} run
    let t' := after {} run'
    t.material? slot ≠ none → t'.material? slot' ≠ none →
    relation t' slot' t slot ∧ relation t slot t' slot'

/-- Slots that held the same at one point each are matched by what holds of slots with that. -/
theorem matchedBy_of_material? {relation : SlotTable → SlotId → SlotTable → SlotId → Prop}
    {material : KeyMaterial}
    (hrelation : ∀ {t t' : SlotTable} {slot slot' : SlotId}, t'.material? slot' = some material →
      t.material? slot = some material → relation t' slot' t slot)
    {history history' run run' : List PlacedCall} (hrun : run <+: history) (hrun' : run' <+: history')
    (h : (after {} run).material? slot = some material)
    (h' : (after {} run').material? slot' = some material) :
    MatchedBy relation history slot history' slot' := by
  intro other other' hother hother' t t' hlive hlive'
  have hslot : t.material? slot = some material := material?_at_point hrun hother h hlive
  have hslot' : t'.material? slot' = some material := material?_at_point hrun' hother' h' hlive'
  exact ⟨hrelation hslot' hslot, hrelation hslot hslot'⟩

end SlotTable

/-! ## Wrapping and unwrapping -/

namespace PlacedCall

variable {identity content : SlotId}

/-- A call that wraps gives the written form of what the cipher makes of the key, and a slot with the
keys that it derived. -/
theorem exists_of_wrapKey {text : String} {derived : SlotId}
    (h : answer ⟨.wrapKey identity content, w⟩ t = .ok (.textAndSlot text derived)) :
    ∃ seed certificate key body,
      let salt := w.nextRandom DerivedKeys.saltSize
      let keys := DerivedKeys.expand seed salt .wrap
      t.material? identity = some (.identity seed certificate)
        ∧ t.material? content = some (.content key) ∧ keys.encrypt key.toList = .ok body
        ∧ text = Salted.write ⟨salt, body⟩
        ∧ (next ⟨.wrapKey identity content, w⟩ t).material? derived = some (.derived keys) := by
  obtain ⟨⟨text', derived'⟩, hx, hanswer⟩ := (performs_wrapKey identity content w).of_answer h
  cases hanswer
  obtain ⟨seed, certificate, key, body, -, hidentity, hcontent, hbody, hr, hnext⟩ :=
    (SlotTable.wrapKey_makes _).of_eq_ok hx
  cases hr
  refine ⟨seed, certificate, key, body, hidentity, hcontent, hbody, rfl, ?_⟩
  rw [hnext]
  exact SlotTable.material?_fill_next _ _

/-- A key is wrapped under an identity, if a slot is free. -/
theorem exists_answer_of_wrapKey {seed key : Octets 32} {certificate : String} (hroom : t.HasRoom 1)
    (hidentity : t.material? identity = some (.identity seed certificate))
    (hcontent : t.material? content = some (.content key)) :
    ∃ text material, answer ⟨.wrapKey identity content, w⟩ t = .ok (.textAndSlot text t.next)
      ∧ next ⟨.wrapKey identity content, w⟩ t = t.fill material := by
  obtain ⟨body, -, hx⟩ := SlotTable.wrapKey_eq hroom.1 hidentity hcontent
    (w.nextRandom DerivedKeys.saltSize)
  rw [if_neg (Nat.not_lt_of_le hroom.2)] at hx
  exact ⟨_, _, (performs_wrapKey identity content w).of_ok hx⟩

/-- An identity is loaded from a keystore that can be loaded, if a slot is free. -/
theorem next_loadIdentity {keystore : Path} {k : Keystore} (hroom : t.HasRoom 1)
    (hload : Keystore.load keystore (w.files.read keystore) = .ok k) :
    next ⟨.loadIdentity keystore, w⟩ t = t.fill (.identity k.seed k.certificate) := by
  have hcall : (SoftwareCall.loadIdentity keystore).run t w
      = ((.ok (.slot t.next), t.fill (.identity k.seed k.certificate)), w) :=
    (OnWorld.bind_eq (Runs.loadIdentity_eq hroom.1 (Nat.not_lt_of_le hroom.2) hload)).trans rfl
  exact congrArg (fun r => r.1.2) hcall

/-- A text that carries a key is unwrapped, and the key and the keys that are derived with it come
into two new slots. -/
theorem unwrapKey_of_carries {seed key : Octets 32} {certificate text : String}
    {salt : Octets DerivedKeys.saltSize} (hroom : t.HasRoom 2)
    (hidentity : t.material? identity = some (.identity seed certificate))
    (hcarries : Salted.Carries seed .wrap salt key.toList text) :
    ∃ content derived,
      answer ⟨.unwrapKey identity text, w⟩ t = .ok (.twoSlots content derived)
        ∧ (next ⟨.unwrapKey identity text, w⟩ t).material? content = some (.content key)
        ∧ (next ⟨.unwrapKey identity text, w⟩ t).material? derived
          = some (.derived (DerivedKeys.expand seed salt .wrap)) := by
  obtain ⟨body, hparse, hbody⟩ := hcarries.exists_parse
  obtain ⟨hanswer, hnext⟩ := (performs_unwrapKey identity text w).of_ok
    (SlotTable.unwrapKey_of_decrypt hroom.1 hroom.2 hidentity hparse hbody)
  refine ⟨_, _, hanswer, ?_, ?_⟩
  · rw [hnext, SlotTable.material?_fill_of_ne (SlotTable.next_ne_next_fill t _),
      SlotTable.material?_fill_next]
  · rw [hnext]
    exact SlotTable.material?_fill_next _ _

/-- What is unwrapped under an identity is what carries a key under it, and there must be room. -/
theorem unwrapKey_eq_ok_iff {text : String} :
    (∃ content derived, answer ⟨.unwrapKey identity text, w⟩ t = .ok (.twoSlots content derived))
      ↔ t.HasRoom 2 ∧ ∃ seed certificate salt, ∃ key : Octets 32,
        t.material? identity = some (.identity seed certificate)
          ∧ Salted.Carries seed .wrap salt key.toList text := by
  constructor
  · rintro ⟨content, derived, h⟩
    obtain ⟨p, hx, -⟩ := (performs_unwrapKey identity text w).of_answer h
    obtain ⟨s, seed, certificate, key, hroom, hparse, hidentity, hkey, -, -⟩ :=
      (SlotTable.unwrapKey_makes text).of_eq_ok hx
    exact ⟨hroom, seed, certificate, s.salt, key, hidentity, Salted.carries_of_parse hparse hkey⟩
  · rintro ⟨hroom, seed, certificate, salt, key, hidentity, hcarries⟩
    obtain ⟨content, derived, hanswer, -⟩ := unwrapKey_of_carries (w := w) hroom hidentity hcarries
    exact ⟨content, derived, hanswer⟩

end PlacedCall

/-- **Unwrapping undoes wrapping.** A key that was wrapped in one service is unwrapped in every service
that has two free slots and the same identity in one, be it the same service or another. It comes
with the keys that were derived when it was wrapped. As long as both are live, the two content slots
open what was encrypted under the other, before the wrapping or after it, and the two derived slots
accept the codes of the other. Conversely, unwrapping succeeds for texts that carry a key under the
identity, and for no others. -/
theorem unwrap_undoes_wrap :
    (∀ (past : List PlacedCall) (identity content : SlotId) (w : World) (text : String)
        (derived : SlotId),
      let t := SlotTable.after {} past
      let p : PlacedCall := ⟨.wrapKey identity content, w⟩
      p.answer t = .ok (.textAndSlot text derived) →
      ∃ seed certificate key keys,
        t.material? identity = some (.identity seed certificate)
          ∧ t.material? content = some (.content key)
          ∧ (p.next t).material? derived = some (.derived keys)
          ∧ ∀ (past' : List PlacedCall) (identity' : SlotId) (certificate' : String) (w' : World),
            let t' := SlotTable.after {} past'
            let q : PlacedCall := ⟨.unwrapKey identity' text, w'⟩
            t'.HasRoom 2 → t'.material? identity' = some (.identity seed certificate') →
            ∃ content' derived',
              q.answer t' = .ok (.twoSlots content' derived')
                ∧ (q.next t').material? content' = some (.content key)
                ∧ (q.next t').material? derived' = some (.derived keys)
                ∧ ∀ later later' : List PlacedCall,
                  let history := past ++ p :: later
                  let history' := past' ++ q :: later'
                  SlotTable.MatchedBy SlotTable.Opens history content history' content'
                    ∧ SlotTable.MatchedBy SlotTable.Accepts history derived history' derived')
      ∧ ∀ (past : List PlacedCall) (identity : SlotId) (text : String) (w : World),
        let t := SlotTable.after {} past
        (∃ content derived,
            PlacedCall.answer ⟨.unwrapKey identity text, w⟩ t = .ok (.twoSlots content derived))
          ↔ t.HasRoom 2 ∧ ∃ seed certificate salt, ∃ key : Octets 32,
            t.material? identity = some (.identity seed certificate)
              ∧ Salted.Carries seed .wrap salt key.toList text := by
  refine ⟨?_, fun _ _ _ _ => PlacedCall.unwrapKey_eq_ok_iff⟩
  intro past identity content w text derived t p hanswer
  obtain ⟨seed, certificate, key, body, hidentity, hcontent, hbody, rfl, hderived⟩ :=
    PlacedCall.exists_of_wrapKey hanswer
  refine ⟨seed, certificate, key, _, hidentity, hcontent, hderived, ?_⟩
  intro past' identity' certificate' w' t' q hroom hidentity'
  obtain ⟨content', derived', hanswer', hcontent', hderived'⟩ :=
    PlacedCall.unwrapKey_of_carries (w := w') hroom hidentity' (Salted.carries_write hbody)
  refine ⟨content', derived', hanswer', hcontent', hderived', ?_⟩
  intro later later' history history'
  -- the point after a call is one of the history that goes on from there
  have hafter : ∀ (q : PlacedCall) (past : List PlacedCall),
      q.next (SlotTable.after {} past) = SlotTable.after {} (past ++ [q]) := fun q past =>
    (SlotTable.after_append {} past [q]).symm
  have hpoint : ∀ (q : PlacedCall) (past later : List PlacedCall),
      past ++ [q] <+: past ++ q :: later := fun q past later =>
    (List.prefix_append_right_inj past).2 ⟨later, rfl⟩
  rw [hafter] at hderived hcontent' hderived'
  refine ⟨?_, ?_⟩
  · exact SlotTable.matchedBy_of_material? SlotTable.opens_of_content
      (List.prefix_append past _) (hpoint q past' later') hcontent hcontent'
  · exact SlotTable.matchedBy_of_material? SlotTable.accepts_of_derived
      (hpoint p past later) (hpoint q past' later') hderived hderived'

/-- A key that was wrapped under a loaded identity is unwrapped under it, and what is encrypted under
the one is decrypted under the other. -/
theorem unwrap_undoes_wrap_sample :
    let w : World :=
      { World.bare with files := ⟨[([textBytes "k"], .file Keystore.sample.toBytes)], []⟩ }
    let past : List PlacedCall :=
      [⟨.initialise, w⟩, ⟨.loadIdentity (.ofString "k"), w⟩, ⟨.generateContentKey 32, w⟩]
    let p : PlacedCall := ⟨.wrapKey ⟨1⟩ ⟨2⟩, w⟩
    ∃ text derived content' derived',
      let q : PlacedCall := ⟨.unwrapKey ⟨1⟩ text, w⟩
      p.answer (SlotTable.after {} past) = .ok (.textAndSlot text derived)
        ∧ q.answer (SlotTable.after {} (past ++ [p])) = .ok (.twoSlots content' derived')
        ∧ SlotTable.MatchedBy SlotTable.Opens (past ++ [p, q]) ⟨2⟩ (past ++ [p] ++ [q]) content' := by
  intro w past p
  let t₁ := SlotTable.initialise {}
  let t₂ := t₁.fill (.identity Keystore.sample.seed Keystore.sample.certificate)
  let t₃ := t₂.fill (.content (w.nextRandom 32))
  have hpast : SlotTable.after {} past = t₃ := by
    have hload : Keystore.load (.ofString "k") (w.files.read (.ofString "k")) = .ok Keystore.sample :=
      Keystore.load_sample _
    have hidentity := PlacedCall.next_loadIdentity (t := t₁) ⟨rfl, by decide⟩ hload
    have hcontent : SlotTable.after {} past = PlacedCall.next ⟨.generateContentKey 32, w⟩ t₂ := by
      change _ = PlacedCall.next _ (t₁.fill _)
      rw [← hidentity]
      rfl
    exact hcontent.trans rfl
  have hidentity : t₃.material? ⟨1⟩
      = some (.identity Keystore.sample.seed Keystore.sample.certificate) := by
    rw [SlotTable.material?_fill_of_le (by decide)]
    exact SlotTable.material?_fill_next t₁ _
  have hcontent : t₃.material? ⟨2⟩ = some (.content (w.nextRandom 32)) :=
    SlotTable.material?_fill_next t₂ _
  obtain ⟨text, derived, material, hanswer, hnext⟩ : ∃ text derived material,
      p.answer t₃ = .ok (.textAndSlot text derived) ∧ p.next t₃ = t₃.fill material := by
    have hroom : t₃.HasRoom 1 := ⟨rfl, by decide⟩
    obtain ⟨text, material, hwrap⟩ :=
      PlacedCall.exists_answer_of_wrapKey (w := w) hroom hidentity hcontent
    exact ⟨text, t₃.next, material, hwrap⟩
  rw [← hpast] at hanswer
  obtain ⟨seed, certificate, key, keys, hidentity', -, -, hunwrap⟩ :=
    unwrap_undoes_wrap.1 past ⟨1⟩ ⟨2⟩ w text derived hanswer
  -- the service in which the key is unwrapped is the one in which it was wrapped
  have hpast' : SlotTable.after {} (past ++ [p]) = t₃.fill material := by
    rw [SlotTable.after_append, hpast]
    exact hnext
  have hroom' : (t₃.fill material).HasRoom 2 := by
    refine ⟨rfl, ?_⟩
    rw [SlotTable.liveCount_fill]
    decide
  rw [← hpast'] at hroom'
  have hstill : (SlotTable.after {} (past ++ [p])).material? ⟨1⟩
      = some (.identity seed certificate) := by
    rw [hpast', SlotTable.material?_fill_of_le (by decide), ← hpast]
    exact hidentity'
  obtain ⟨content', derived', hanswer', -, -, hmatched⟩ :=
    hunwrap (past ++ [p]) ⟨1⟩ certificate w hroom' hstill
  exact ⟨text, derived, content', derived', hanswer, hanswer', (hmatched _ []).1⟩

end ModelProtection
