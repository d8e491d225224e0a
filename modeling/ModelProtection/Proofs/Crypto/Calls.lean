/-
The calls of the service in software, all of them side by side.

`SoftwareCall` names every call with everything that it is given, those that make
documents and those that take them apart again, and `SoftwareCall.run` makes it.
What a call can do to the table of slots is said once, in `Effect`, and every
call does what calls of its kind do or fails without a trace (`run_answers`). From
then on nobody has to look at a call again to know what happens to the slots.
-/
import ModelProtection.Proofs.Crypto.Operations
import ModelProtection.Proofs.Protect.Steps

set_option autoImplicit false

namespace ModelProtection

/-! ## Calls -/

/-- A call of the service in software, with what it is given. -/
inductive SoftwareCall where
  | initialise
  | shutDown
  | loadIdentity (keystore : Path)
  | generateContentKey (size : Nat)
  | clearSlot (slot : SlotId)
  | certificate (slot : SlotId)
  | verifyCertificate (slot : SlotId) (isPeer : Bool) (certificate : String) (checkLifetime : Bool)
  | encrypt (slot : SlotId) (message : Bytes)
  | decrypt (slot : SlotId) (text : String)
  | hash (bytes : Bytes)
  | sign (slot : SlotId) (document : Bytes)
  | verifySignature (certificate : String) (document : Bytes)
  | wrapKey (identitySlot contentSlot : SlotId)
  | unwrapKey (identitySlot : SlotId) (text : String)
  | authenticate (slot : SlotId) (document : Bytes)
  | verifyMac (slot : SlotId) (document : Bytes)
  | generateGuid

/-- What a call that succeeds answers. -/
inductive SoftwareAnswer where
  | done
  | slot (slot : SlotId)
  | text (text : String)
  | bytes (bytes : Bytes)
  | textAndSlot (text : String) (slot : SlotId)
  | twoSlots (content derived : SlotId)
  | hash (hash : ModelHash)
  | guid (guid : Guid)

/-- The slots that an answer gives, in the order in which they were filled. -/
def SoftwareAnswer.slots : SoftwareAnswer → List SlotId
  | .slot id => [id]
  | .textAndSlot _ id => [id]
  | .twoSlots content derived => [content, derived]
  | _ => []

namespace SoftwareCall

/-- The answer that is made of the result of a request. -/
def answering {α : Type} (answer : α → SoftwareAnswer) (request : OnWorld (Except CryptoError α)) :
    OnWorld (Except CryptoError SoftwareAnswer) := do
  return (← request).map answer

/-- Makes a call. -/
def run : SoftwareCall → OnWorld (Except CryptoError SoftwareAnswer)
  | .initialise => answering (fun _ => .done) CryptoService.initialise
  | .shutDown => do CryptoService.shutDown; return .ok .done
  | .loadIdentity keystore => answering .slot (CryptoService.loadIdentity keystore)
  | .generateContentKey size => answering .slot (CryptoService.generateContentKey size)
  | .clearSlot slot => do CryptoService.clearSlot slot; return .ok .done
  | .certificate slot => answering .text (CryptoService.certificate slot)
  | .verifyCertificate slot isPeer text checkLifetime =>
    answering (fun _ => .done) (CryptoService.verifyCertificate slot isPeer text checkLifetime)
  | .encrypt slot message =>
    answering (fun p => .textAndSlot p.1 p.2) (CryptoService.encrypt slot message)
  | .decrypt slot text => answering .bytes (Software.run (SlotTable.decrypt slot text))
  | .hash bytes => answering .hash (CryptoService.hash bytes)
  | .sign slot document => answering .bytes (CryptoService.sign slot document)
  | .verifySignature text document =>
    answering (fun _ => .done) (pure (ModelProtection.verifySignature text document))
  | .wrapKey identitySlot contentSlot =>
    answering (fun p => .textAndSlot p.1 p.2) (CryptoService.wrapKey identitySlot contentSlot)
  | .unwrapKey identitySlot text =>
    answering (fun p => .twoSlots p.1 p.2) (Software.run (SlotTable.unwrapKey identitySlot text))
  | .authenticate slot document => answering .bytes (CryptoService.authenticate slot document)
  | .verifyMac slot document =>
    answering (fun _ => .done) (Software.run (SlotTable.verifyMac slot document))
  | .generateGuid => answering .guid CryptoService.generateGuid

/-- The slots that a call uses, each with the role that it wants. -/
def uses : SoftwareCall → List (SlotId × KeyRole)
  | .certificate slot => [(slot, .identity)]
  | .verifyCertificate slot .. => [(slot, .identity)]
  | .encrypt slot _ => [(slot, .content)]
  | .decrypt slot _ => [(slot, .content)]
  | .sign slot _ => [(slot, .identity)]
  | .wrapKey identitySlot contentSlot => [(identitySlot, .identity), (contentSlot, .content)]
  | .unwrapKey identitySlot _ => [(identitySlot, .identity)]
  | .authenticate slot _ => [(slot, .derived)]
  | .verifyMac slot _ => [(slot, .derived)]
  | _ => []

end SoftwareCall

/-! ## What a call does to the table -/

/-- What calls are made for, as far as the table of slots is concerned. -/
inductive CallKind where
  | initialise
  | shutDown
  | clear (slot : SlotId)
  /-- Nothing is changed. -/
  | ask
  /-- A slot is filled. -/
  | fill
  /-- Two slots are filled. -/
  | fillTwice

/-- What a call is made for. -/
def SoftwareCall.kind : SoftwareCall → CallKind
  | initialise => .initialise
  | shutDown => .shutDown
  | clearSlot slot => .clear slot
  | loadIdentity _ => .fill
  | generateContentKey _ => .fill
  | encrypt .. => .fill
  | wrapKey .. => .fill
  | unwrapKey .. => .fillTwice
  | _ => .ask

/-- What a call that succeeds does to a table, and the slots that it gives. -/
inductive Effect (t : SlotTable) : CallKind → List SlotId → SlotTable → Prop where
  | initialise : Effect t .initialise [] t.initialise
  | shutDown : Effect t .shutDown [] t.shutDown
  | clear (slot : SlotId) : Effect t (.clear slot) [] (t.clear slot)
  | ask : Effect t .ask [] t
  | fill (hroom : t.HasRoom 1) (material : KeyMaterial) :
    Effect t .fill [t.next] (t.fill material)
  | fillTwice (hroom : t.HasRoom 2) (material material' : KeyMaterial) :
    Effect t .fillTwice [t.next, (t.fill material).next] ((t.fill material).fill material')

/-- A request that fails leaves the table as it was, and one that succeeds gives a result and a table
with a property. -/
structure Answers {α : Type} (request : OnWorld (Except CryptoError α)) (t : SlotTable) (w : World)
    (post : α → SlotTable → Prop) : Prop where
  outcome : match request t w with
    | ((.ok a, t'), _) => post a t'
    | ((.error _, t'), _) => t' = t

namespace Answers

variable {α β : Type} {t t' : SlotTable} {w w' : World} {post : α → SlotTable → Prop}
  {request : OnWorld (Except CryptoError α)}

theorem of_error {e : CryptoError} (hx : request t w = ((.error e, t), w')) :
    Answers request t w post := by
  constructor
  rw [hx]

theorem of_ok {a : α} (hx : request t w = ((.ok a, t'), w')) (h : post a t') :
    Answers request t w post := by
  constructor
  rw [hx]
  exact h

theorem cases (h : Answers request t w post) :
    (∃ e w', request t w = ((.error e, t), w'))
      ∨ ∃ a t' w', request t w = ((.ok a, t'), w') ∧ post a t' := by
  have hrequest := h.outcome
  obtain ⟨⟨⟨result, t'⟩, w'⟩, hx⟩ : ∃ p, request t w = p := ⟨_, rfl⟩
  rw [hx] at hrequest
  cases result with
  | error e =>
    cases hrequest
    exact .inl ⟨e, w', hx⟩
  | ok a => exact .inr ⟨a, t', w', hx, hrequest⟩

theorem mono {post' : α → SlotTable → Prop} (h : Answers request t w post)
    (hpost : ∀ a t', post a t' → post' a t') : Answers request t w post' := by
  rcases h.cases with ⟨e, w', hx⟩ | ⟨a, t', w', hx, ha⟩
  · exact of_error hx
  · exact of_ok hx (hpost a t' ha)

theorem of_yields {operation : SlotM α} (h : SlotTable.Yields operation t post) :
    Answers (Software.run operation) t w post := by
  rcases h.cases with ⟨e, hx⟩ | ⟨a, t', hx, ha⟩
  · exact of_error (Runs.operation_error hx)
  · exact of_ok (Runs.operation_ok hx) ha

theorem of_result {result : Except CryptoError α} (h : ∀ a, result = .ok a → post a t) :
    Answers (pure result) t w post := by
  cases hresult : result with
  | error e => exact ⟨rfl⟩
  | ok a => exact ⟨h a hresult⟩

theorem map {f : α → β} {post : β → SlotTable → Prop}
    (h : Answers request t w fun a t' => post (f a) t') :
    Answers (do return (← request).map f) t w post := by
  rcases h.cases with ⟨e, w', hx⟩ | ⟨a, t', w', hx, ha⟩
  · exact of_error ((OnWorld.bind_eq hx).trans rfl)
  · exact of_ok ((OnWorld.bind_eq hx).trans rfl) ha

/-- A step that only asks is followed by the rest on the same table, on whatever world it leaves. -/
theorem bind {rest : Except CryptoError α → OnWorld (Except CryptoError β)} {ask : α → Prop}
    {post : β → SlotTable → Prop} (h : Answers request t w fun a t' => t' = t ∧ ask a)
    (herror : ∀ e, rest (.error e) = Pure.pure (.error e))
    (hok : ∀ a w', ask a → Answers (rest (.ok a)) t w' post) :
    Answers (request >>= rest) t w post := by
  rcases h.cases with ⟨e, w', hx⟩ | ⟨a, t', w', hx, rfl, ha⟩
  · have hrest : (request >>= rest) t w = ((.error e, t), w') := by
      rw [OnWorld.bind_eq hx, herror]
      rfl
    exact of_error hrest
  · constructor
    rw [OnWorld.bind_eq hx]
    exact (hok a w' ha).outcome

/-- A step that asks the host is followed by the rest. -/
theorem of_host {step : OnWorld β} {rest : β → OnWorld (Except CryptoError α)} {a : β}
    (hx : step t w = ((a, t), w')) (h : Answers (rest a) t w' post) :
    Answers (step >>= rest) t w post := by
  constructor
  rw [OnWorld.bind_eq hx]
  exact h.outcome

/-- A call that asks about a slot. -/
theorem asks {f : α → SoftwareAnswer} {slot : SlotId}
    {role : KeyRole} (hf : ∀ a, (f a).slots = [])
    (h : Answers request t w fun _ t' => t' = t ∧ t.Holds slot role) :
    Answers (SoftwareCall.answering f request) t w fun answer t' =>
      Effect t .ask answer.slots t' ∧ ∀ u ∈ [(slot, role)], t.Holds u.1 u.2 := by
  refine map (h.mono ?_)
  rintro a t' ⟨rfl, hslot⟩
  rw [hf]
  exact ⟨.ask, List.forall_mem_singleton.2 hslot⟩

end Answers

section Requests

variable {t : SlotTable} {w : World} {slot : SlotId}

open SlotTable

theorem loadAt_answers (keystore : Path) :
    Answers (Keystore.loadAt keystore : OnWorld (Except CryptoError Keystore)) t w fun k t' =>
      t' = t ∧ ∃ content, Keystore.load keystore content = .ok k := by
  have hread := OnWorld.loadAt_eq (t := t) (w := w) keystore
  cases hload : Keystore.load keystore (w.files.read keystore) with
  | error e =>
    rw [hload] at hread
    exact Answers.of_error hread
  | ok k =>
    rw [hload] at hread
    exact Answers.of_ok hread ⟨rfl, _, hload⟩

/-- Loading an identity fills a slot with what stands in a keystore that could be loaded. -/
theorem loadIdentity_makes (keystore : Path) :
    Answers (Software.loadIdentity keystore : OnWorld (Except CryptoError SlotId)) t w fun id t' =>
      ∃ k content, Keystore.load keystore content = .ok k ∧ t.HasRoom 1
        ∧ id = t.next ∧ t' = t.fill (.identity k.seed k.certificate) := by
  rw [Software.loadIdentity]
  refine Answers.bind (Answers.of_yields (requireFree_yields 1)) (fun _ => rfl) ?_
  intro _ w₁ _
  refine Answers.bind (loadAt_answers keystore) (fun _ => rfl) ?_
  rintro k w₂ ⟨content, hload⟩
  refine Answers.of_yields ((insert_yields _).mono ?_)
  rintro id t' ⟨hid, ht', hroom⟩
  exact ⟨k, content, hload, hroom, hid, ht'⟩

theorem loadIdentity_answers (keystore : Path) :
    Answers (Software.loadIdentity keystore : OnWorld (Except CryptoError SlotId)) t w fun id t' =>
      ∃ material, id = t.next ∧ t' = t.fill material ∧ t.HasRoom 1 := by
  refine (loadIdentity_makes keystore).mono ?_
  rintro id t' ⟨k, content, -, hroom, hid, ht'⟩
  exact ⟨_, hid, ht', hroom⟩

/-- Encrypting fills a slot with derived keys. -/
theorem encrypt_derives (message : Bytes) :
    Answers (Software.encrypt slot message : OnWorld (Except CryptoError (String × SlotId))) t w
      fun p t' => (∃ keys, p.2 = t.next ∧ t' = t.fill (.derived keys)) ∧ t.HasRoom 1
        ∧ t.Holds slot .content := by
  refine Answers.of_host (OnWorld.randomBytes_eq DerivedKeys.saltSize) ?_
  refine Answers.of_yields ((encrypt_makes _ message).mono ?_)
  rintro p t' ⟨key, body, hroom, hslot, -, rfl, rfl⟩
  exact ⟨⟨_, rfl, rfl⟩, hroom, holds_of_material? hslot⟩

theorem encrypt_answers (message : Bytes) :
    Answers (Software.encrypt slot message : OnWorld (Except CryptoError (String × SlotId))) t w
      fun p t' => (∃ material, p.2 = t.next ∧ t' = t.fill material) ∧ t.HasRoom 1
        ∧ t.Holds slot .content := by
  refine (encrypt_derives message).mono ?_
  rintro p t' ⟨⟨keys, hid, ht'⟩, h⟩
  exact ⟨⟨_, hid, ht'⟩, h⟩

/-- Wrapping fills a slot with derived keys. -/
theorem wrapKey_derives {identitySlot contentSlot : SlotId} :
    Answers (Software.wrapKey identitySlot contentSlot
        : OnWorld (Except CryptoError (String × SlotId))) t w
      fun p t' => (∃ keys, p.2 = t.next ∧ t' = t.fill (.derived keys)) ∧ t.HasRoom 1
        ∧ t.Holds identitySlot .identity ∧ t.Holds contentSlot .content := by
  refine Answers.of_host (OnWorld.randomBytes_eq DerivedKeys.saltSize) ?_
  refine Answers.of_yields ((wrapKey_makes _).mono ?_)
  rintro p t' ⟨seed, certificate, key, body, hroom, hidentity, hcontent, -, rfl, rfl⟩
  exact ⟨⟨_, rfl, rfl⟩, hroom, holds_of_material? hidentity, holds_of_material? hcontent⟩

theorem wrapKey_answers {identitySlot contentSlot : SlotId} :
    Answers (Software.wrapKey identitySlot contentSlot
        : OnWorld (Except CryptoError (String × SlotId))) t w
      fun p t' => (∃ material, p.2 = t.next ∧ t' = t.fill material) ∧ t.HasRoom 1
        ∧ t.Holds identitySlot .identity ∧ t.Holds contentSlot .content := by
  refine wrapKey_derives.mono ?_
  rintro p t' ⟨⟨keys, hid, ht'⟩, h⟩
  exact ⟨⟨_, hid, ht'⟩, h⟩

theorem generateContentKey_makes (size : Nat) :
    Answers (Software.generateContentKey size : OnWorld (Except CryptoError SlotId)) t w fun id t' =>
      ∃ key, t.HasRoom 1 ∧ id = t.next ∧ t' = t.fill (.content key) := by
  rw [Software.generateContentKey]
  by_cases hsize : size ≠ contentKeySize
  · -- a key of another size is refused before the host is asked for one
    rw [if_pos hsize]
    exact ⟨rfl⟩
  · rw [if_neg hsize]
    refine Answers.of_host (OnWorld.randomBytes_eq 32) ?_
    refine Answers.of_yields ((insert_yields _).mono ?_)
    rintro id t' ⟨hid, ht', hroom⟩
    exact ⟨_, hroom, hid, ht'⟩

theorem generateContentKey_answers (size : Nat) :
    Answers (Software.generateContentKey size : OnWorld (Except CryptoError SlotId)) t w fun id t' =>
      ∃ material, id = t.next ∧ t' = t.fill material ∧ t.HasRoom 1 := by
  refine (generateContentKey_makes size).mono ?_
  rintro id t' ⟨key, hroom, hid, ht'⟩
  exact ⟨_, hid, ht', hroom⟩

theorem verifyCertificate_answers (isPeer : Bool) (text : String) (checkLifetime : Bool) :
    Answers (Software.verifyCertificate slot isPeer text checkLifetime
        : OnWorld (Except CryptoError Unit)) t w fun _ t' =>
      t' = t ∧ t.Holds slot .identity := by
  rw [Software.verifyCertificate]
  cases checkLifetime with
  | false => exact Answers.of_yields (verifyCertificate_yields isPeer text none)
  | true =>
    refine Answers.of_host OnWorld.now_eq ?_
    exact Answers.of_yields (verifyCertificate_yields isPeer text (some w.present))

end Requests

open SlotTable in
/-- Every call does what calls of its kind do, on live slots of the roles that it wants, or fails
and changes nothing. -/
theorem SoftwareCall.run_answers (c : SoftwareCall) (t : SlotTable) (w : World) :
    Answers c.run t w fun answer t' =>
      Effect t c.kind answer.slots t' ∧ ∀ u ∈ c.uses, t.Holds u.1 u.2 := by
  cases c with
  -- calls that use no slot and cannot fail
  | initialise => exact ⟨.initialise, nofun⟩
  | shutDown => exact ⟨.shutDown, nofun⟩
  | clearSlot slot => exact ⟨.clear slot, nofun⟩
  | hash bytes => exact ⟨.ask, nofun⟩
  | generateGuid => exact ⟨.ask, nofun⟩
  -- calls that fill slots
  | loadIdentity keystore =>
    refine Answers.map ((loadIdentity_answers keystore).mono ?_)
    rintro id t' ⟨material, rfl, rfl, hroom⟩
    exact ⟨.fill hroom material, nofun⟩
  | generateContentKey size =>
    refine Answers.map ((generateContentKey_answers size).mono ?_)
    rintro id t' ⟨material, rfl, rfl, hroom⟩
    exact ⟨.fill hroom material, nofun⟩
  | encrypt slot message =>
    refine Answers.map ((encrypt_answers message).mono ?_)
    rintro p t' ⟨⟨material, hid, rfl⟩, hroom, hslot⟩
    refine ⟨?_, List.forall_mem_singleton.2 hslot⟩
    rw [SoftwareAnswer.slots, hid]
    exact .fill hroom material
  | wrapKey identitySlot contentSlot =>
    refine Answers.map (wrapKey_answers.mono ?_)
    rintro p t' ⟨⟨material, hid, rfl⟩, hroom, hidentity, hcontent⟩
    refine ⟨?_, List.forall_mem_cons.2 ⟨hidentity, List.forall_mem_singleton.2 hcontent⟩⟩
    rw [SoftwareAnswer.slots, hid]
    exact .fill hroom material
  | unwrapKey slot text =>
    refine Answers.map ((Answers.of_yields (unwrapKey_yields text)).mono ?_)
    rintro p t' ⟨⟨material, material', rfl, rfl⟩, hroom, hslot⟩
    exact ⟨.fillTwice hroom material material', List.forall_mem_singleton.2 hslot⟩
  -- calls that ask about a slot, and one that asks about documents only
  | certificate slot => exact Answers.asks (fun _ => rfl) (Answers.of_yields certificate_yields)
  | verifyCertificate slot isPeer text checkLifetime =>
    exact Answers.asks (fun _ => rfl) (verifyCertificate_answers isPeer text checkLifetime)
  | decrypt slot text =>
    exact Answers.asks (fun _ => rfl) (Answers.of_yields (decrypt_yields text))
  | sign slot document =>
    exact Answers.asks (fun _ => rfl) (Answers.of_yields (sign_yields document))
  | authenticate slot document =>
    exact Answers.asks (fun _ => rfl) (Answers.of_yields (authenticate_yields document))
  | verifyMac slot document =>
    exact Answers.asks (fun _ => rfl) (Answers.of_yields (verifyMac_yields document))
  | verifySignature text document =>
    refine Answers.map (Answers.of_result ?_)
    intro _ _
    exact ⟨.ask, nofun⟩

end ModelProtection
