/-
Which documents are accepted as authentic.

A document is accepted under derived keys if it ends with the armour of its code
under them (`DerivedKeys.Authenticates`). Everything between the bytes and the
comparison of codes is exact: the envelope that opens is the one that was sealed,
and digits are read as the bytes that they spell. So a byte string is accepted
under one slot or another by its own form, and the slot has no part in it but its
keys (`PlacedCall.verifyMac_eq_done_iff`).

What is refused follows from that form alone: another kind, another tag, and
anything behind the armour that is no armour itself.
-/
import ModelProtection.Proofs.Crypto.Wrapping
import ModelProtection.Proofs.Envelope.Ending
import ModelProtection.Proofs.Text.Hex

set_option autoImplicit false

namespace ModelProtection

namespace DerivedKeys

/-- A document, and behind it one armour block whose tag spells the code of the document in 64 digits
of either case. -/
def Authenticates (keys : DerivedKeys) (s : Bytes) : Prop :=
  ∃ (data : Bytes) (tag : String), s = Envelope.sealedBytes ⟨data, .mac, tag⟩
    ∧ tag.toList.length = 64 ∧ Hex.Spells tag.toList (hmac keys.macKey.toList data).toList

/-- The code of a document is made with HMAC, under the key that authenticates. -/
theorem mac_eq_hmac (keys : DerivedKeys) (document : Bytes) :
    keys.mac document = hmac keys.macKey.toList document := rfl

end DerivedKeys

variable {t : SlotTable} {w : World} {slot : SlotId}

namespace Envelope

/-- A text of 64 digits is a tag. -/
theorem isTag_of_spells {tag : String} {o : Octets 32} (h : Hex.Spells tag.toList o.toList) :
    IsTag tag := by
  have hlength : tag.toList.length = 64 := h.length_eq.trans (by rw [o.length_toList])
  refine ⟨?_, ?_, h.digits⟩
  · rw [hlength]
    decide
  · rw [hlength]
    decide

end Envelope

namespace SlotTable

theorem verifyMac_eq_ok_iff {s : Bytes} :
    verifyMac slot s t = .ok ((), t)
      ↔ ∃ keys, t.material? slot = some (.derived keys) ∧ keys.Authenticates s := by
  constructor
  · intro h
    obtain ⟨e, keys, hdecode, hkind, hcode, hslot, -⟩ := (verifyMac_makes s).of_eq_ok h
    obtain ⟨htag, rfl⟩ := Envelope.decode_eq_ok_iff.1 hdecode
    have hspells := (Hex.decodeSized_eq_ok_iff htag.2.2).1 hcode
    rw [DerivedKeys.mac_eq_hmac] at hspells
    refine ⟨keys, hslot, e.data, e.tag, ?_, ?_, hspells⟩
    · rw [← hkind]
    · rw [hspells.length_eq, Octets.length_toList]
  · rintro ⟨keys, hslot, data, tag, rfl, -, hspells⟩
    rw [← DerivedKeys.mac_eq_hmac] at hspells
    have hdecode := Envelope.decode_eq_ok_iff (e := ⟨data, .mac, tag⟩).2
      ⟨Envelope.isTag_of_spells hspells, rfl⟩
    exact verifyMac_of_decode hslot hdecode rfl ((Hex.decodeSized_eq_ok_iff hspells.digits).2 hspells)

end SlotTable

namespace PlacedCall

/-- A code is accepted for the form of the document and the keys in the slot. -/
theorem verifyMac_eq_done_iff {s : Bytes} :
    answer ⟨.verifyMac slot s, w⟩ t = .ok .done
      ↔ ∃ keys, t.material? slot = some (.derived keys) ∧ keys.Authenticates s := by
  rw [← SlotTable.verifyMac_eq_ok_iff]
  constructor
  · intro h
    obtain ⟨_, hx, -⟩ := (performs_verifyMac slot s w).of_answer h
    obtain ⟨-, -, -, -, -, -, hnext⟩ := (SlotTable.verifyMac_makes s).of_eq_ok hx
    rw [hx, hnext]
  · intro h
    exact ((performs_verifyMac slot s w).of_ok h).1

/-- Documents are given codes under derived keys only. -/
theorem exists_of_authenticate {document s : Bytes}
    (h : answer ⟨.authenticate slot document, w⟩ t = .ok (.bytes s)) :
    ∃ keys, t.material? slot = some (.derived keys) := by
  obtain ⟨_, hx, -⟩ := (performs_authenticate slot document w).of_answer h
  obtain ⟨-, material, hslot, hrole⟩ := (SlotTable.authenticate_yields document).of_eq_ok hx
  cases material with
  | derived keys => exact ⟨keys, hslot⟩
  | identity seed certificate => cases hrole
  | content key => cases hrole

/-- An armour block that is accepted is one with a code, and with the right one. -/
theorem of_verifyMac_sealedBytes {e : Envelope} (hnewline : (0x0A : UInt8) ∉ textBytes e.tag)
    (h : answer ⟨.verifyMac slot e.sealedBytes, w⟩ t = .ok .done) :
    e.kind = .mac ∧ e.tag.toList.length = 64
      ∧ ∃ keys, t.material? slot = some (.derived keys)
        ∧ Hex.Spells e.tag.toList (hmac keys.macKey.toList e.data).toList := by
  obtain ⟨keys, hslot, data, tag, hs, hlength, hspells⟩ := verifyMac_eq_done_iff.1 h
  have hnewline' := Envelope.newline_notMem_tag (Envelope.isTag_of_spells hspells)
  obtain rfl := Envelope.eq_of_sealedBytes_eq hnewline hnewline' hs
  exact ⟨rfl, hlength, keys, hslot, hspells⟩

/-- What is accepted with more bytes behind an armour block has a second block among them, and a code
that covers the first. -/
theorem of_verifyMac_append {e : Envelope} {x : Bytes} (htag : Envelope.IsTag e.tag) (hx : x ≠ [])
    (h : answer ⟨.verifyMac slot (e.sealedBytes ++ x), w⟩ t = .ok .done) :
    Envelope.markBytes <:+: x
      ∧ ∃ keys data tag, t.material? slot = some (.derived keys)
        ∧ e.sealedBytes ++ x = Envelope.sealedBytes ⟨data, .mac, tag⟩
        ∧ Hex.Spells tag.toList (hmac keys.macKey.toList data).toList
        ∧ e.sealedBytes.dropLast <+: data := by
  obtain ⟨keys, hslot, data, tag, hs, -, hspells⟩ := verifyMac_eq_done_iff.1 h
  have hdecode := Envelope.decode_eq_ok_iff.2 ⟨Envelope.isTag_of_spells hspells, hs⟩
  obtain ⟨hcovered, hmark⟩ := Envelope.prefix_data_of_append htag hx hdecode
  refine ⟨hmark, keys, data, tag, hslot, hs, hspells, ?_⟩
  rw [Envelope.sealedBytes_eq, ← List.cons_append, ← List.append_assoc, List.dropLast_concat]
  exact hcovered

/-- A document with its code is accepted as long as the slot is live. -/
theorem verifyMac_of_authenticate {data s : Bytes} (ht : t.WellFormed)
    (h : answer ⟨.authenticate slot data, w⟩ t = .ok (.bytes s)) (later : List PlacedCall)
    (hlive : (t.after later).material? slot ≠ none) (w' : World) :
    answer ⟨.verifyMac slot s, w'⟩ (t.after later) = .ok .done := by
  obtain ⟨keys, hslot⟩ := exists_of_authenticate h
  have hcounted : slot.number ≤ t.issued := by
    apply SlotTable.number_le_of_live ht
    rw [hslot]
    exact Option.some_ne_none _
  have hlater := SlotTable.material?_after_of_live later hcounted hlive
  rw [hslot] at hlater
  exact (SlotTable.accepts_of_derived hlater hslot data w).2 s w' h

end PlacedCall

/-- **Codes are accepted for exactly the authentic forms.** A byte string is accepted under a slot if
and only if the slot holds derived keys and the bytes are a document with one armour block behind it,
whose tag spells the code of the document under these keys; the case of its digits is all that is free.
So what was given a code is accepted as long as the slot is live. An armour block of another kind is
not accepted, nor is one with another tag, whatever is written for it on its line. Bytes behind an
armour block are not accepted unless there is a second block among them, whose code covers the first. -/
theorem mac_accepts_authentic_forms (past : List PlacedCall) (slot : SlotId) :
    let t := SlotTable.after {} past
    (∀ (s : Bytes) (w : World), PlacedCall.answer ⟨.verifyMac slot s, w⟩ t = .ok .done
        ↔ ∃ keys, t.material? slot = some (.derived keys) ∧ keys.Authenticates s)
      ∧ (∀ (data s : Bytes) (w : World),
          PlacedCall.answer ⟨.authenticate slot data, w⟩ t = .ok (.bytes s) →
          ∀ (later : List PlacedCall) (w' : World), (t.after later).material? slot ≠ none →
            PlacedCall.answer ⟨.verifyMac slot s, w'⟩ (t.after later) = .ok .done)
      ∧ (∀ (e : Envelope) (w : World), (0x0A : UInt8) ∉ textBytes e.tag →
          PlacedCall.answer ⟨.verifyMac slot e.sealedBytes, w⟩ t = .ok .done →
          e.kind = .mac ∧ e.tag.toList.length = 64
            ∧ ∃ keys, t.material? slot = some (.derived keys)
              ∧ Hex.Spells e.tag.toList (hmac keys.macKey.toList e.data).toList)
      ∧ ∀ (e : Envelope) (x : Bytes) (w : World), Envelope.IsTag e.tag → x ≠ [] →
          PlacedCall.answer ⟨.verifyMac slot (e.sealedBytes ++ x), w⟩ t = .ok .done →
          Envelope.markBytes <:+: x
            ∧ ∃ keys data tag, t.material? slot = some (.derived keys)
              ∧ e.sealedBytes ++ x = Envelope.sealedBytes ⟨data, .mac, tag⟩
              ∧ Hex.Spells tag.toList (hmac keys.macKey.toList data).toList
              ∧ e.sealedBytes.dropLast <+: data := by
  intro t
  have ht : t.WellFormed := SlotTable.after_wellFormed .empty past
  refine ⟨fun s w => PlacedCall.verifyMac_eq_done_iff, ?_, ?_, ?_⟩
  · intro data s w hanswer later w' hlive
    exact PlacedCall.verifyMac_of_authenticate ht hanswer later hlive w'
  · intro e w hnewline hanswer
    exact PlacedCall.of_verifyMac_sealedBytes hnewline hanswer
  · intro e x w htag hx hanswer
    exact PlacedCall.of_verifyMac_append htag hx hanswer

/-- Under the first derived keys of a service, a document that ends with an armour block of its own is
accepted with its code, and is not accepted without. -/
theorem mac_accepts_authentic_forms_sample :
    let past : List PlacedCall :=
      [⟨.initialise, .bare⟩, ⟨.generateContentKey 32, .bare⟩, ⟨.encrypt ⟨1⟩ [1, 2, 3], .bare⟩]
    let t := SlotTable.after {} past
    let first : Envelope := ⟨[1], .signature, "aB"⟩
    ∃ second : Envelope, second.data = first.sealedBytes
      ∧ PlacedCall.answer ⟨.authenticate ⟨2⟩ second.data, .bare⟩ t = .ok (.bytes second.sealedBytes)
      ∧ PlacedCall.answer ⟨.verifyMac ⟨2⟩ second.sealedBytes, .bare⟩ t = .ok .done
      ∧ PlacedCall.answer ⟨.verifyMac ⟨2⟩ first.sealedBytes, .bare⟩ t ≠ .ok .done
      ∧ (∃ keys, t.material? ⟨2⟩ = some (.derived keys)
        ∧ Hex.Spells second.tag.toList (hmac keys.macKey.toList second.data).toList)
      ∧ ∃ x, second.sealedBytes = first.sealedBytes ++ x ∧ Envelope.markBytes <:+: x := by
  intro past t first
  let before := SlotTable.after {} [⟨.initialise, .bare⟩, ⟨.generateContentKey 32, .bare⟩]
  have hcontent : before.material? ⟨1⟩ = some (.content (World.bare.nextRandom 32)) := rfl
  have hroom : before.HasRoom 1 := ⟨rfl, by decide⟩
  obtain ⟨text, keys, -, hnext⟩ :=
    PlacedCall.exists_answer_of_encrypt (w := .bare) hroom hcontent (m := [1, 2, 3]) rfl
  have ht : t = before.fill (.derived keys) := hnext
  have hslot : t.material? ⟨2⟩ = some (.derived keys) := by
    rw [ht]
    exact SlotTable.material?_fill_next before _
  let second := Envelope.authenticated keys first.sealedBytes
  have hlength : first.sealedBytes.length ≤ 1000 := by decide +kernel
  have hmost : 1000 + Envelope.mostTag + Envelope.armourSize ≤ Buffer.mostCapacity := by decide
  have hcode : PlacedCall.answer ⟨.authenticate ⟨2⟩ first.sealedBytes, .bare⟩ t
      = .ok (.bytes second.sealedBytes) :=
    SlotTable.authenticate_of_derived hslot (by omega)
  obtain ⟨-, hauthentic, hblock, hbehind⟩ := mac_accepts_authentic_forms past ⟨2⟩
  have haccepted : PlacedCall.answer ⟨.verifyMac ⟨2⟩ second.sealedBytes, .bare⟩ t = .ok .done := by
    refine hauthentic first.sealedBytes second.sealedBytes .bare hcode [] .bare ?_
    change t.material? ⟨2⟩ ≠ none
    rw [hslot]
    exact Option.some_ne_none _
  refine ⟨second, rfl, hcode, haccepted, ?_, ?_, ?_⟩
  · intro h
    have hkind : first.kind = .mac := (hblock first .bare (by decide +kernel) h).1
    cases hkind
  · have hnewline := Envelope.newline_notMem_tag
      (Envelope.isTag_iff.1 (Envelope.isTag_authenticated keys first.sealedBytes))
    exact (hblock second .bare hnewline haccepted).2.2
  · let x := Utf8.encode ('\n' :: Envelope.armourText second.kind second.tag)
    have hfirst : Envelope.IsTag first.tag := Envelope.isTag_iff.1 (by decide +kernel)
    exact ⟨x, rfl, (hbehind first x .bare hfirst (List.cons_ne_nil _ _) haccepted).1⟩

end ModelProtection
