/-
Decrypting undoes encrypting, and nothing else is decrypted.

A text is decrypted to the message that it carries under the key in the slot
(`SlotTable.decrypt_of_carries`), and to nothing else. `Salted.Carries` looks at
the key alone, so it does not matter in which slot a key is, in which service, or
what has happened since: what holds of a slot when it is filled holds as long as
it is live (`SlotTable.material?_at_point`).

A call is an operation on the table with its random bytes drawn beforehand.
`PlacedCall.Performs` says so once for each call, and the operations are not run
again after that.
-/
import ModelProtection.Proofs.Crypto.History
import ModelProtection.Proofs.Crypto.Salted

set_option autoImplicit false

namespace ModelProtection

variable {t t' : SlotTable} {w : World} {slot : SlotId}

/-! ## Calls that perform operations -/

namespace PlacedCall

variable {α : Type} {p : PlacedCall} {operation : SlotM α} {reply : α → SoftwareAnswer}

/-- A call answers with the result of an operation and leaves the table of the operation. -/
structure Performs (p : PlacedCall) (operation : SlotM α) (reply : α → SoftwareAnswer) : Prop where
  run_eq : ∀ t, ∃ w, (p.call.run t p.world).1
    = ((SoftwareCall.answering reply (Software.run operation)
        : OnWorld (Except CryptoError SoftwareAnswer)) t w).1

namespace Performs

theorem of_ok (h : p.Performs operation reply) {a : α} (hx : operation t = .ok (a, t')) :
    p.answer t = .ok (reply a) ∧ p.next t = t' := by
  obtain ⟨w, hrun⟩ := h.run_eq t
  have heq : (SoftwareCall.answering reply (Software.run operation)
      : OnWorld (Except CryptoError SoftwareAnswer)) t w = ((.ok (reply a), t'), w) :=
    (OnWorld.bind_eq (Runs.operation_ok hx)).trans rfl
  rw [heq] at hrun
  exact ⟨congrArg Prod.fst hrun, congrArg Prod.snd hrun⟩

theorem of_error (h : p.Performs operation reply) {e : CryptoError}
    (hx : operation t = .error ⟨e, t'⟩) : p.answer t = .error e := by
  obtain ⟨w, hrun⟩ := h.run_eq t
  have heq : (SoftwareCall.answering reply (Software.run operation)
      : OnWorld (Except CryptoError SoftwareAnswer)) t w = ((.error e, t'), w) :=
    (OnWorld.bind_eq (Runs.operation_error hx)).trans rfl
  rw [heq] at hrun
  exact congrArg Prod.fst hrun

/-- A call that succeeds has performed its operation. -/
theorem of_answer (h : p.Performs operation reply) {answer : SoftwareAnswer}
    (hanswer : p.answer t = .ok answer) :
    ∃ a, operation t = .ok (a, p.next t) ∧ answer = reply a := by
  cases hx : operation t with
  | error e =>
    rw [h.of_error hx] at hanswer
    cases hanswer
  | ok r =>
    obtain ⟨hok, hnext⟩ := h.of_ok hx
    rw [hok] at hanswer
    cases hanswer
    exact ⟨r.1, by rw [hnext], rfl⟩

/-- A call that draws bytes first performs the operation with those bytes. -/
theorem of_draw {n : Nat} {x : Octets n → SlotM α}
    (hrun : p.call.run = SoftwareCall.answering reply do
      let drawn ← Host.randomBytes n
      Software.run (x drawn)) :
    p.Performs (x (p.world.nextRandom n)) reply := by
  constructor
  intro t
  rw [hrun]
  exact ⟨p.world.afterDraw n, rfl⟩

end Performs

theorem performs_encrypt (slot : SlotId) (message : Bytes) (w : World) :
    Performs ⟨.encrypt slot message, w⟩
      (SlotTable.encrypt (w.nextRandom DerivedKeys.saltSize) slot message)
      fun p => .textAndSlot p.1 p.2 := by
  apply Performs.of_draw (x := fun salt => SlotTable.encrypt salt slot message)
  rfl

theorem performs_decrypt (slot : SlotId) (text : String) (w : World) :
    Performs ⟨.decrypt slot text, w⟩ (SlotTable.decrypt slot text) .bytes :=
  ⟨fun _ => ⟨w, rfl⟩⟩

theorem performs_wrapKey (identity content : SlotId) (w : World) :
    Performs ⟨.wrapKey identity content, w⟩
      (SlotTable.wrapKey (w.nextRandom DerivedKeys.saltSize) identity content)
      fun p => .textAndSlot p.1 p.2 := by
  apply Performs.of_draw (x := fun salt => SlotTable.wrapKey salt identity content)
  rfl

theorem performs_unwrapKey (slot : SlotId) (text : String) (w : World) :
    Performs ⟨.unwrapKey slot text, w⟩ (SlotTable.unwrapKey slot text)
      fun p => .twoSlots p.1 p.2 :=
  ⟨fun _ => ⟨w, rfl⟩⟩

theorem performs_authenticate (slot : SlotId) (document : Bytes) (w : World) :
    Performs ⟨.authenticate slot document, w⟩ (SlotTable.authenticate slot document) .bytes :=
  ⟨fun _ => ⟨w, rfl⟩⟩

theorem performs_verifyMac (slot : SlotId) (document : Bytes) (w : World) :
    Performs ⟨.verifyMac slot document, w⟩ (SlotTable.verifyMac slot document) fun _ => .done :=
  ⟨fun _ => ⟨w, rfl⟩⟩

end PlacedCall

/-! ## Slots over time -/

namespace SlotTable

theorem number_le_of_live (ht : t.WellFormed) (hlive : t.material? slot ≠ none) :
    slot.number ≤ t.issued := by
  refine Nat.le_of_not_lt fun hlt => hlive ?_
  rw [material?_eq_none_iff]
  rintro e he rfl
  exact absurd (ht.number_le e he) (Nat.not_le_of_lt hlt)

/-- A slot that is live after some calls has held the same all the time. -/
theorem material?_after_of_live (calls : List PlacedCall) (hslot : slot.number ≤ t.issued)
    (hlive : (t.after calls).material? slot ≠ none) :
    (t.after calls).material? slot = t.material? slot := by
  induction calls generalizing t with
  | nil => rfl
  | cons p calls ih =>
    have hlater := ih (Nat.le_trans hslot (issued_le_after t [p])) hlive
    -- the first call has not cleared the slot, or it would be gone for good
    have hfirst := PlacedCall.material?_next (p := p) hslot
    by_cases hclears : p.call.kind.clears slot = true
    · rw [if_pos hclears] at hfirst
      exact absurd (hlater.trans hfirst) hlive
    · rw [if_neg hclears] at hfirst
      exact hlater.trans hfirst

/-- At any point of a history at which a slot is live, it holds what it holds at any other such point. -/
theorem material?_at_point {history run run' : List PlacedCall} {material : KeyMaterial}
    (hrun : run <+: history) (hrun' : run' <+: history)
    (h : (after {} run).material? slot = some material)
    (hlive : (after {} run').material? slot ≠ none) :
    (after {} run').material? slot = some material := by
  have hforward : ∀ {a b : List PlacedCall}, a <+: b → (after {} a).material? slot ≠ none →
      (after {} b).material? slot ≠ none →
      (after {} b).material? slot = (after {} a).material? slot := by
    rintro a b ⟨rest, rfl⟩ ha hb
    rw [after_append] at hb ⊢
    exact material?_after_of_live rest (number_le_of_live (after_wellFormed .empty a) ha) hb
  have hlive₀ : (after {} run).material? slot ≠ none := by
    rw [h]
    exact Option.some_ne_none _
  rw [← h]
  rcases List.prefix_or_prefix_of_prefix hrun hrun' with hle | hle
  · exact hforward hle hlive₀ hlive
  · exact (hforward hle hlive hlive₀).symm

/-! ## Encrypting and decrypting -/

/-- A text is decrypted to the message that it carries under the key in the slot. -/
theorem decrypt_of_carries {key : Octets 32} {salt : Octets DerivedKeys.saltSize} {message : Bytes}
    {text : String} (h : t.material? slot = some (.content key))
    (hcarries : Salted.Carries key .content salt message text) :
    decrypt slot text t = .ok (message, t) := by
  obtain ⟨body, hparse, hbody⟩ := hcarries.exists_parse
  rw [decrypt_eq h hparse, hbody]

end SlotTable

namespace PlacedCall

/-- A call that encrypts gives the written form of what the cipher makes under the salt that it
draws. -/
theorem exists_of_encrypt {message : Bytes} {text : String} {derived : SlotId}
    (h : answer ⟨.encrypt slot message, w⟩ t = .ok (.textAndSlot text derived)) :
    ∃ key body, t.material? slot = some (.content key)
      ∧ (DerivedKeys.expand key (w.nextRandom DerivedKeys.saltSize) .content).encrypt message
        = .ok body
      ∧ text = Salted.write ⟨w.nextRandom DerivedKeys.saltSize, body⟩ := by
  obtain ⟨⟨text', derived'⟩, hx, hanswer⟩ := (performs_encrypt slot message w).of_answer h
  cases hanswer
  obtain ⟨key, body, -, hslot, hbody, hr, -⟩ := (SlotTable.encrypt_makes _ message).of_eq_ok hx
  cases hr
  exact ⟨key, body, hslot, hbody, rfl⟩

/-- A message that is not too long for the cipher is encrypted, if a slot is free. -/
theorem exists_answer_of_encrypt {key : Octets 32} {m : Bytes} (hroom : t.HasRoom 1)
    (hslot : t.material? slot = some (.content key)) (hshort : Aead.tooLong m.length = false) :
    ∃ text keys, answer ⟨.encrypt slot m, w⟩ t = .ok (.textAndSlot text t.next)
      ∧ next ⟨.encrypt slot m, w⟩ t = t.fill (.derived keys) := by
  let keys := DerivedKeys.expand key (w.nextRandom DerivedKeys.saltSize) .content
  obtain ⟨body, hbody⟩ := DerivedKeys.encrypt_eq_ok (k := keys) hshort
  have hx := SlotTable.encrypt_eq hroom.1 hslot (w.nextRandom DerivedKeys.saltSize) m
  rw [if_neg (Nat.not_lt_of_le hroom.2), hbody] at hx
  exact ⟨_, _, (performs_encrypt slot m w).of_ok hx⟩

/-- What a call decrypts under a key is what the text carries. -/
theorem decrypt_eq_ok_iff {key : Octets 32} (hslot : t.material? slot = some (.content key))
    {message : Bytes} {text : String} :
    answer ⟨.decrypt slot text, w⟩ t = .ok (.bytes message)
      ↔ ∃ salt, Salted.Carries key .content salt message text := by
  constructor
  · intro h
    obtain ⟨message', hx, hanswer⟩ := (performs_decrypt slot text w).of_answer h
    cases hanswer
    obtain ⟨s, key', hparse, hslot', hmessage, -⟩ := (SlotTable.decrypt_makes text).of_eq_ok hx
    rw [hslot] at hslot'
    cases hslot'
    exact ⟨s.salt, Salted.carries_of_parse hparse hmessage⟩
  · rintro ⟨salt, hcarries⟩
    exact ((performs_decrypt slot text w).of_ok (SlotTable.decrypt_of_carries hslot hcarries)).1

/-- The salt under which a message is decrypted is that of the text. -/
theorem decrypt_under_salt_iff {key : Octets 32} (hslot : t.material? slot = some (.content key))
    {salt : Octets DerivedKeys.saltSize} {message : Bytes} {text : String} :
    (answer ⟨.decrypt slot text, w⟩ t = .ok (.bytes message)
        ∧ ∃ body, Salted.parse text = .ok ⟨salt, body⟩)
      ↔ Salted.Carries key .content salt message text := by
  rw [decrypt_eq_ok_iff hslot]
  constructor
  · rintro ⟨⟨salt', hcarries⟩, body, hparse⟩
    obtain rfl := hcarries.salt_eq hparse
    exact hcarries
  · intro hcarries
    obtain ⟨body, hparse, -⟩ := hcarries.exists_parse
    exact ⟨⟨salt, hcarries⟩, body, hparse⟩

end PlacedCall

/-- **Decrypting is the inverse of encrypting.** While a content slot is live, what was encrypted under
it is decrypted again, with any white space around the text. A text is decrypted to a message if and
only if it carries the message under the key in the slot, so for every salt there is one text for a
message, up to white space around it; a message that is too long for the cipher has none. -/
theorem decrypt_inverts_encrypt (past : List PlacedCall) (slot : SlotId) (key : Octets 32)
    (hslot : (SlotTable.after {} past).material? slot = some (.content key)) :
    let t := SlotTable.after {} past
    (∀ (message : Bytes) (w : World) (text : String) (derived : SlotId),
        let p : PlacedCall := ⟨.encrypt slot message, w⟩
        p.answer t = .ok (.textAndSlot text derived) →
        ∀ later : List PlacedCall, ((p.next t).after later).material? slot ≠ none →
        ∀ before after : List Char, (∀ c ∈ before, Space.isSpace c = true) →
          (∀ c ∈ after, Space.isSpace c = true) → ∀ w' : World,
          PlacedCall.answer ⟨.decrypt slot (String.ofList (before ++ text.toList ++ after)), w'⟩
            ((p.next t).after later) = .ok (.bytes message))
      ∧ (∀ (text : String) (message : Bytes) (w : World),
          PlacedCall.answer ⟨.decrypt slot text, w⟩ t = .ok (.bytes message)
            ↔ ∃ salt, Salted.Carries key .content salt message text)
      ∧ ∀ (salt : Octets DerivedKeys.saltSize) (message : Bytes),
          ∃ written : Option (List Char),
            (written = none ↔ Aead.tooLong message.length = true)
            ∧ ∀ (text : String) (w : World),
              (PlacedCall.answer ⟨.decrypt slot text, w⟩ t = .ok (.bytes message)
                  ∧ ∃ body, Salted.parse text = .ok ⟨salt, body⟩)
                ↔ written = some (Space.trim text.toList) := by
  intro t
  have ht : t.WellFormed := SlotTable.after_wellFormed .empty past
  refine ⟨?_, fun text message w => PlacedCall.decrypt_eq_ok_iff hslot, ?_⟩
  · intro message w text derived p hanswer later hlive before after hbefore hafter w'
    obtain ⟨key', body, hslot', hbody, rfl⟩ := PlacedCall.exists_of_encrypt hanswer
    rw [hslot] at hslot'
    cases hslot'
    -- the slot was live before the call, so its number has been counted
    have hcounted : slot.number ≤ t.issued := by
      apply SlotTable.number_le_of_live ht
      rw [hslot]
      exact Option.some_ne_none _
    have hlater : ((p.next t).after later).material? slot = t.material? slot :=
      SlotTable.material?_after_of_live (p :: later) hcounted hlive
    rw [hslot] at hlater
    exact (PlacedCall.decrypt_eq_ok_iff hlater).2
      ⟨_, Salted.carries_surrounded hbefore hafter hbody⟩
  · intro salt message
    obtain ⟨written, hnone, hwritten⟩ := Salted.exists_written key .content salt message
    refine ⟨written, hnone, ?_⟩
    intro text w
    rw [← hwritten]
    exact PlacedCall.decrypt_under_salt_iff hslot

/-- A message under the first content key of a service is encrypted, and decrypted with blanks around
the text. -/
theorem decrypt_inverts_encrypt_sample :
    let t := SlotTable.after {} [⟨.initialise, .bare⟩, ⟨.generateContentKey 32, .bare⟩]
    let p : PlacedCall := ⟨.encrypt ⟨1⟩ [1, 2, 3], .bare⟩
    t.material? ⟨1⟩ = some (.content (World.bare.nextRandom 32))
      ∧ ∃ text derived, p.answer t = .ok (.textAndSlot text derived)
        ∧ PlacedCall.answer ⟨.decrypt ⟨1⟩ (String.ofList ([' '] ++ text.toList ++ ['\n'])), .bare⟩
          (p.next t) = .ok (.bytes [1, 2, 3]) := by
  intro t p
  have hslot : t.material? ⟨1⟩ = some (.content (World.bare.nextRandom 32)) := rfl
  have hroom : t.HasRoom 1 := ⟨rfl, by decide⟩
  obtain ⟨text, keys, hanswer, hnext⟩ :=
    PlacedCall.exists_answer_of_encrypt (w := .bare) hroom hslot (m := [1, 2, 3]) rfl
  have hlive : (p.next t).material? ⟨1⟩ ≠ none := by
    rw [hnext, SlotTable.material?_fill_of_le (by decide), hslot]
    exact Option.some_ne_none _
  refine ⟨hslot, text, t.next, hanswer, ?_⟩
  exact (decrypt_inverts_encrypt _ ⟨1⟩ _ hslot).1 [1, 2, 3] .bare text t.next hanswer [] hlive
    [' '] ['\n'] (List.forall_mem_singleton.2 rfl) (List.forall_mem_singleton.2 rfl) .bare

end ModelProtection
