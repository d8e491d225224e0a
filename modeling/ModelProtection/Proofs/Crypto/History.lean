/-
Histories of a service.

A service lives through a list of calls, each made while the world is in some
state. Nothing is asked of those states: files come and go between two calls, and
the clock may say anything. What one call does to the table comes from
`SoftwareCall.run_answers`, and everything here is carried from one call to a
list of them by induction on the list.

The invariant is `SlotTable.WellFormed`. Beside it stands the count: slots are
numbered in the order in which they are filled, without gaps
(`number_givenBy`), so an id is new as long as the counter has not come round,
which takes 2⁶⁴ slots. A slot whose number has been counted is either live with
what it was filled with, or gone for good (`material?_after_of_kept`,
`material?_after_eq_none`).
-/
import ModelProtection.Proofs.Crypto.Calls
import ModelProtection.Proofs.Crypto.WellFormed

set_option autoImplicit false

namespace ModelProtection

/-- A world without files, where it is always the same time. -/
def World.bare : World where
  files := ⟨[], []⟩
  random _ := 0
  clock _ := .epoch

/-- A call that is made while the world is in some state. -/
structure PlacedCall where
  call : SoftwareCall
  world : World

namespace PlacedCall

/-- What the call answers. -/
def answer (p : PlacedCall) (t : SlotTable) : Except CryptoError SoftwareAnswer :=
  (p.call.run t p.world).1.1

/-- The table that the call leaves. -/
def next (p : PlacedCall) (t : SlotTable) : SlotTable := (p.call.run t p.world).1.2

/-- The slots that the call gives. -/
def given (p : PlacedCall) (t : SlotTable) : List SlotId :=
  match p.answer t with
  | .ok answer => answer.slots
  | .error _ => []

end PlacedCall

/-- Whether a slot is no longer live after calls of a kind. -/
def CallKind.clears (slot : SlotId) : CallKind → Bool
  | shutDown => true
  | clear other => other == slot
  | _ => false

namespace SlotTable

/-- The table after a list of calls. -/
def after (t : SlotTable) (calls : List PlacedCall) : SlotTable :=
  calls.foldl (fun t p => p.next t) t

/-- The slots that a list of calls gives, in their order. -/
def givenBy : SlotTable → List PlacedCall → List SlotId
  | _, [] => []
  | t, p :: calls => p.given t ++ givenBy (p.next t) calls

/-- Some slots are filled that were not live, and nothing else is different. -/
structure Gains (t t' : SlotTable) (slots : List SlotId) : Prop where
  initialised_eq : t'.initialised = t.initialised
  issued_eq : t'.issued = t.issued + slots.length
  liveCount_eq : t'.liveCount = t.liveCount + slots.length
  fresh : ∀ slot ∈ slots, t.material? slot = none
  live : ∀ slot ∈ slots, ∃ material, t'.material? slot = some material
  others : ∀ slot, slot ∉ slots → t'.material? slot = t.material? slot

/-! ## One call -/

variable {t t' : SlotTable} {kind : CallKind} {slots : List SlotId} {slot : SlotId}

theorem material?_fill_of_ne (h : slot ≠ t.next) (material : KeyMaterial) :
    (t.fill material).material? slot = t.material? slot := by
  rw [material?, fill, List.lookup_cons, beq_false_of_ne h]
  rfl

theorem next_ne_next_fill (t : SlotTable) (material : KeyMaterial) :
    t.next ≠ (t.fill material).next := by
  intro h
  have hnumber : t.issued + 1 = t.issued + 1 + 1 := congrArg SlotId.number h
  exact absurd hnumber (Nat.ne_of_lt (Nat.lt_succ_self _))

end SlotTable

namespace Effect

open SlotTable

variable {t t' : SlotTable} {kind : CallKind} {slots : List SlotId} {slot : SlotId}

theorem wellFormed (h : Effect t kind slots t') (ht : t.WellFormed) : t'.WellFormed := by
  cases h with
  | initialise => exact ht.initialise
  | shutDown => exact WellFormed.shutDown t
  | clear slot => exact ht.clear slot
  | ask => exact ht
  | fill hroom material => exact ht.fill hroom.1 hroom.2 material
  | fillTwice hroom material material' =>
    have hfirst := ht.fill hroom.1 (Nat.le_of_succ_le hroom.2) material
    exact hfirst.fill hroom.1 (hasRoom_fill hroom material).2 material'

/-- The slots that are given have the numbers that come next. -/
theorem number_eq (h : Effect t kind slots t') :
    slots.map SlotId.number = List.range' (t.issued + 1) slots.length := by
  cases h <;> rfl

theorem issued_eq (h : Effect t kind slots t') : t'.issued = t.issued + slots.length := by
  cases h <;> rfl

/-- A slot that has been counted is cleared, or it stays as it is. -/
theorem material?_eq (h : Effect t kind slots t') (hslot : slot.number ≤ t.issued) :
    t'.material? slot = if kind.clears slot then none else t.material? slot := by
  cases h with
  | initialise => rfl
  | shutDown => rfl
  | ask => rfl
  | fill hroom material => exact material?_fill_of_le hslot material
  | fillTwice hroom material material' =>
    have hfirst := material?_fill_of_le hslot material
    exact (material?_fill_of_le (Nat.le_succ_of_le hslot) material').trans hfirst
  | clear other =>
    rw [CallKind.clears]
    by_cases heq : other = slot
    · rw [heq, beq_self_eq_true, if_pos rfl]
      exact material?_clear_self t slot
    · rw [beq_false_of_ne heq]
      exact material?_clear_of_ne (Ne.symm heq)

/-- The slots that are given are live. -/
theorem live (h : Effect t kind slots t') :
    ∀ slot ∈ slots, ∃ material, t'.material? slot = some material := by
  cases h with
  | initialise => nofun
  | shutDown => nofun
  | clear other => nofun
  | ask => nofun
  | fill hroom material =>
    exact List.forall_mem_singleton.2 ⟨material, material?_fill_next t material⟩
  | fillTwice hroom material material' =>
    refine List.forall_mem_cons.2 ⟨⟨material, ?_⟩, List.forall_mem_singleton.2 ⟨material', ?_⟩⟩
    · rw [material?_fill_of_ne (next_ne_next_fill t material) material', material?_fill_next]
    · exact material?_fill_next _ material'

theorem eq_of_ask (h : Effect t .ask slots t') : t' = t := by
  cases h
  rfl

theorem eq_of_initialise (h : Effect t .initialise slots t') : t' = t.initialise := by
  cases h
  rfl

theorem gains_of_fill (h : Effect t .fill slots t') (ht : t.WellFormed) :
    ∃ id, slots = [id] ∧ t.Gains t' [id] := by
  have hlive := h.live
  cases h with
  | fill hroom material =>
    refine ⟨t.next, rfl, rfl, rfl, rfl, ?_, hlive, ?_⟩
    · exact List.forall_mem_singleton.2 ht.material?_next
    · intro slot hslot
      exact material?_fill_of_ne (List.ne_of_not_mem_cons hslot) material

theorem gains_of_fillTwice (h : Effect t .fillTwice slots t') (ht : t.WellFormed) :
    ∃ id id', id ≠ id' ∧ slots = [id, id'] ∧ t.Gains t' [id, id'] := by
  have hlive := h.live
  cases h with
  | fillTwice hroom material material' =>
    have hne := next_ne_next_fill t material
    -- the second slot is not live either: it is not even live when the first is
    have hsecond : t.material? (t.fill material).next = none := by
      have hfirst := ht.fill hroom.1 (Nat.le_of_succ_le hroom.2) material
      rw [← material?_fill_of_ne hne.symm material]
      exact hfirst.material?_next
    refine ⟨t.next, (t.fill material).next, hne, rfl, rfl, rfl, rfl, ?_, hlive, ?_⟩
    · exact List.forall_mem_cons.2 ⟨ht.material?_next, List.forall_mem_singleton.2 hsecond⟩
    · intro slot hslot
      have hrest := List.not_mem_of_not_mem_cons hslot
      rw [material?_fill_of_ne (List.ne_of_not_mem_cons hrest) material',
        material?_fill_of_ne (List.ne_of_not_mem_cons hslot) material]

end Effect

namespace PlacedCall

variable {p : PlacedCall} {t : SlotTable} {slot : SlotId}

/-- A call that fails changes nothing, and one that succeeds does what calls of its kind do. -/
theorem outcome (p : PlacedCall) (t : SlotTable) :
    ((∃ e, p.answer t = .error e) ∧ p.given t = [] ∧ p.next t = t)
      ∨ ((∃ answer, p.answer t = .ok answer ∧ p.given t = answer.slots)
          ∧ Effect t p.call.kind (p.given t) (p.next t)
          ∧ ∀ u ∈ p.call.uses, t.Holds u.1 u.2) := by
  rw [given, answer, next]
  rcases (p.call.run_answers t p.world).cases with ⟨e, w', hx⟩ | ⟨answer, t', w', hx, h⟩
  · rw [hx]
    exact .inl ⟨⟨e, rfl⟩, rfl, rfl⟩
  · rw [hx]
    exact .inr ⟨⟨answer, rfl, rfl⟩, h⟩

/-- Only calls that clear slots clear slots, and they do not fail. -/
theorem effect_of_clears (h : p.call.kind.clears slot = true) :
    Effect t p.call.kind (p.given t) (p.next t) := by
  obtain ⟨call, world⟩ := p
  cases call with
  | shutDown => exact .shutDown
  | clearSlot other => exact .clear other
  | _ => cases h

theorem next_wellFormed (p : PlacedCall) (ht : t.WellFormed) : (p.next t).WellFormed := by
  rcases p.outcome t with ⟨-, -, hnext⟩ | ⟨-, heffect, -⟩
  · rw [hnext]
    exact ht
  · exact heffect.wellFormed ht

theorem number_given (p : PlacedCall) (t : SlotTable) :
    (p.given t).map SlotId.number = List.range' (t.issued + 1) (p.given t).length := by
  rcases p.outcome t with ⟨-, hgiven, -⟩ | ⟨-, heffect, -⟩
  · rw [hgiven]
    rfl
  · exact heffect.number_eq

theorem issued_next (p : PlacedCall) (t : SlotTable) :
    (p.next t).issued = t.issued + (p.given t).length := by
  rcases p.outcome t with ⟨-, hgiven, hnext⟩ | ⟨-, heffect, -⟩
  · rw [hgiven, hnext]
    rfl
  · exact heffect.issued_eq

theorem material?_next (hslot : slot.number ≤ t.issued) :
    (p.next t).material? slot
      = if p.call.kind.clears slot then none else t.material? slot := by
  -- a call that fails changes nothing, so one that clears the slot must not be able to fail
  by_cases hclears : p.call.kind.clears slot = true
  · exact (effect_of_clears hclears).material?_eq hslot
  · rcases p.outcome t with ⟨-, -, hnext⟩ | ⟨-, heffect, -⟩
    · rw [hnext, if_neg hclears]
    · exact heffect.material?_eq hslot

theorem number_le_of_mem_given (h : slot ∈ p.given t) : slot.number ≤ (p.next t).issued := by
  have hmem := List.mem_map_of_mem (f := SlotId.number) h
  rw [number_given, List.mem_range'_1] at hmem
  rw [issued_next]
  exact Nat.le_of_lt_succ (Nat.lt_of_lt_of_eq hmem.2 (Nat.add_right_comm _ _ _))

/-- A slot that is given has been filled. -/
theorem exists_material?_of_mem_given (h : slot ∈ p.given t) :
    ∃ material, (p.next t).material? slot = some material := by
  rcases p.outcome t with ⟨-, hgiven, -⟩ | ⟨-, heffect, -⟩
  · rw [hgiven] at h
    cases h
  · exact heffect.live slot h

/-- A call that uses a slot that is not live fails. -/
theorem exists_error_of_uses (hslot : t.material? slot = none) {role : KeyRole}
    (h : (slot, role) ∈ p.call.uses) : ∃ e, p.answer t = .error e := by
  rcases p.outcome t with ⟨herror, -, -⟩ | ⟨-, -, huses⟩
  · exact herror
  · obtain ⟨material, hlive, -⟩ := huses _ h
    rw [hslot] at hlive
    cases hlive

end PlacedCall

/-! ## Lists of calls -/

namespace SlotTable

variable {t : SlotTable} {slot : SlotId} {calls : List PlacedCall}

theorem after_wellFormed (ht : t.WellFormed) (calls : List PlacedCall) :
    (t.after calls).WellFormed := by
  induction calls generalizing t with
  | nil => exact ht
  | cons p calls ih => exact ih (p.next_wellFormed ht)

/-- Slots are numbered in the order in which they are filled. -/
theorem number_givenBy (t : SlotTable) (calls : List PlacedCall) :
    (givenBy t calls).map SlotId.number
      = List.range' (t.issued + 1) (givenBy t calls).length := by
  induction calls generalizing t with
  | nil => rfl
  | cons p calls ih =>
    rw [givenBy, List.map_append, List.length_append, ih, p.number_given, p.issued_next,
      ← List.range'_append_1, Nat.add_right_comm]

theorem pairwise_givenBy (t : SlotTable) (calls : List PlacedCall) :
    (givenBy t calls).Pairwise (·.number < ·.number) := by
  have hsorted := List.pairwise_lt_range' (s := t.issued + 1) (n := (givenBy t calls).length)
  rw [← number_givenBy] at hsorted
  exact List.pairwise_map.1 hsorted

theorem issued_after (t : SlotTable) (calls : List PlacedCall) :
    (t.after calls).issued = t.issued + (givenBy t calls).length := by
  induction calls generalizing t with
  | nil => rfl
  | cons p calls ih =>
    rw [givenBy, List.length_append, ← Nat.add_assoc, ← p.issued_next]
    exact ih (p.next t)

theorem issued_le_after (t : SlotTable) (calls : List PlacedCall) :
    t.issued ≤ (t.after calls).issued := by
  rw [issued_after]
  exact Nat.le_add_right _ _

/-- A slot stays as it is until it is cleared. -/
theorem material?_after_of_kept (hslot : slot.number ≤ t.issued)
    (hkept : ∀ q ∈ calls, q.call.kind.clears slot = false) :
    (t.after calls).material? slot = t.material? slot := by
  induction calls generalizing t with
  | nil => rfl
  | cons p calls ih =>
    obtain ⟨hp, hcalls⟩ := List.forall_mem_cons.1 hkept
    have hfirst := PlacedCall.material?_next (p := p) hslot
    rw [hp, if_neg Bool.false_ne_true] at hfirst
    have hcounted : slot.number ≤ (p.next t).issued :=
      Nat.le_trans hslot (issued_le_after t [p])
    exact (ih hcounted hcalls).trans hfirst

theorem after_append (t : SlotTable) (calls rest : List PlacedCall) :
    t.after (calls ++ rest) = (t.after calls).after rest :=
  List.foldl_append

/-- A slot that is gone stays away. -/
theorem material?_after_eq_none (hslot : slot.number ≤ t.issued)
    (hgone : t.material? slot = none) : (t.after calls).material? slot = none := by
  induction calls generalizing t with
  | nil => exact hgone
  | cons p calls ih =>
    refine ih (Nat.le_trans hslot (issued_le_after t [p])) ?_
    rw [PlacedCall.material?_next hslot, hgone, ite_self]

/-- A slot that is cleared once is gone. -/
theorem material?_after_of_cleared (hslot : slot.number ≤ t.issued) {q : PlacedCall}
    (hclears : q.call.kind.clears slot = true) (calls rest : List PlacedCall) :
    (t.after (calls ++ q :: rest)).material? slot = none := by
  rw [after_append]
  have hbefore : slot.number ≤ (t.after calls).issued :=
    Nat.le_trans hslot (issued_le_after t calls)
  refine material?_after_eq_none (t := q.next (t.after calls)) ?_ ?_
  · exact Nat.le_trans hbefore (issued_le_after _ [q])
  · rw [PlacedCall.material?_next hbefore, if_pos hclears]

end SlotTable

/-! ## Every call -/

/-- A call that fails leaves the table as it was, whatever its arguments and whatever has happened to
the service before. A call that makes or loads keys and succeeds fills the slots that it gives, and
a call that asks changes nothing. -/
theorem software_call_all_or_nothing (past : List PlacedCall) (p : PlacedCall) :
    let t := SlotTable.after {} past
    match p.answer t with
    | .error _ => p.next t = t
    | .ok answer =>
      match p.call with
      | .initialise => p.next t = t.initialise
      | .shutDown => p.next t = t.shutDown
      | .clearSlot slot => p.next t = t.clear slot
      | .loadIdentity _ | .generateContentKey _ | .encrypt .. | .wrapKey .. =>
        ∃ id, answer.slots = [id] ∧ t.Gains (p.next t) [id]
      | .unwrapKey .. =>
        ∃ id id', id ≠ id' ∧ answer.slots = [id, id'] ∧ t.Gains (p.next t) [id, id']
      | _ => p.next t = t := by
  intro t
  have ht : t.WellFormed := SlotTable.after_wellFormed SlotTable.WellFormed.empty past
  rcases p.outcome t with ⟨⟨e, hanswer⟩, -, hnext⟩ | ⟨⟨answer, hanswer, hgiven⟩, heffect, -⟩
  · rw [hanswer]
    exact hnext
  · rw [hanswer]
    rw [hgiven] at heffect
    obtain ⟨call, w⟩ := p
    cases call with
    | initialise => rfl
    | shutDown => rfl
    | clearSlot slot => rfl
    | loadIdentity keystore => exact heffect.gains_of_fill ht
    | generateContentKey size => exact heffect.gains_of_fill ht
    | encrypt slot message => exact heffect.gains_of_fill ht
    | wrapKey identitySlot contentSlot => exact heffect.gains_of_fill ht
    | unwrapKey slot text => exact heffect.gains_of_fillTwice ht
    | _ => exact heffect.eq_of_ask

/-- However a service is used, its table stays within its bounds and no slot is ever mistaken for
another. Slots are numbered as they are filled, over all starts and stops, and the counter has
counted just those: it needs 64 bits for fewer than 2⁶⁴ of them. Between the call that gives a slot
and one that clears it the slot holds the same material. After that no call can use it, and clearing
it once more does nothing. -/
theorem software_slots_never_reused (past : List PlacedCall) :
    let t := SlotTable.after {} past
    (t.liveCount ≤ SlotTable.mostLive ∧ (t.initialised = false → t.live = []))
      ∧ (SlotTable.givenBy {} past).Pairwise (·.number < ·.number)
      ∧ t.issued = (SlotTable.givenBy {} past).length
      ∧ ∀ (p : PlacedCall), ∀ slot ∈ p.given t,
        (∃ material, ∀ later : List PlacedCall,
            (∀ q ∈ later, q.call.kind.clears slot = false) →
            ((p.next t).after later).material? slot = some material)
        ∧ ∀ (later : List PlacedCall) (q : PlacedCall) (rest : List PlacedCall),
            q.call.kind.clears slot = true →
            let t' := (p.next t).after (later ++ q :: rest)
            t'.material? slot = none ∧ t'.clear slot = t'
              ∧ ∀ (r : PlacedCall) (role : KeyRole), (slot, role) ∈ r.call.uses →
                ∃ e, r.answer t' = .error e := by
  intro t
  have ht : t.WellFormed := SlotTable.after_wellFormed SlotTable.WellFormed.empty past
  have hissued : t.issued = 0 + (SlotTable.givenBy {} past).length := SlotTable.issued_after {} past
  refine ⟨⟨ht.liveCount_le, ht.live_eq_nil⟩, SlotTable.pairwise_givenBy {} past, ?_, ?_⟩
  · rw [hissued, Nat.zero_add]
  intro p slot hslot
  have hcounted := PlacedCall.number_le_of_mem_given hslot
  obtain ⟨material, hmaterial⟩ := PlacedCall.exists_material?_of_mem_given hslot
  refine ⟨⟨material, ?_⟩, ?_⟩
  · intro later hkept
    rw [SlotTable.material?_after_of_kept hcounted hkept, hmaterial]
  · intro later q rest hclears
    have hgone := SlotTable.material?_after_of_cleared hcounted hclears later rest
    refine ⟨hgone, SlotTable.clear_eq_self hgone, ?_⟩
    intro r role huses
    exact PlacedCall.exists_error_of_uses hgone huses

-- the second key is made in a slot of its own, and the name of the first is of no use any more
example (w : World) :
    PlacedCall.answer ⟨.encrypt ⟨1⟩ [], w⟩
      (SlotTable.after {} [⟨.initialise, w⟩, ⟨.generateContentKey 32, w⟩, ⟨.shutDown, w⟩,
        ⟨.initialise, w⟩, ⟨.generateContentKey 32, w⟩])
      = .error (.invalidSlot ⟨1⟩ .empty) := rfl

end ModelProtection
