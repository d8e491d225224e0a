/-
What holds of every table that a service can have.

The count of the slots that were ever filled bounds the numbers of those that are
live. From that everything else follows: the slot that is filled next is not one
that is named already, and a slot that was cleared is not filled again.
-/
import ModelProtection.Proofs.Crypto.Slots

set_option autoImplicit false

namespace ModelProtection

namespace SlotTable

variable {t : SlotTable} {slot : SlotId}

/-- A table that a service can have. -/
structure WellFormed (t : SlotTable) : Prop where
  /-- No more slots are live than can be. -/
  liveCount_le : t.liveCount ≤ mostLive
  /-- The numbers of live slots have been counted. -/
  number_le : ∀ e ∈ t.live, e.1.number ≤ t.issued
  /-- No slot is live twice. -/
  nodup : (t.live.map Prod.fst).Nodup
  /-- A service that has not been started has no live slots. -/
  live_eq_nil : t.initialised = false → t.live = []

/-! ## Looking up -/

theorem material?_eq_none_iff : t.material? slot = none ↔ ∀ e ∈ t.live, e.1 ≠ slot := by
  rw [material?, List.lookup_eq_none_iff]
  refine forall₂_congr fun e _ => ?_
  rw [bne_iff_ne]
  exact ne_comm

theorem material?_clear_self (t : SlotTable) (slot : SlotId) :
    (t.clear slot).material? slot = none := by
  rw [material?_eq_none_iff]
  intro e he
  exact of_decide_eq_true (List.mem_filter.1 he).2

/-- Clearing a slot that is not live does nothing. -/
theorem clear_eq_self (h : t.material? slot = none) : t.clear slot = t := by
  have hlive : t.live.filter (·.1 ≠ slot) = t.live := by
    refine List.filter_eq_self.2 fun e he => ?_
    exact decide_eq_true (material?_eq_none_iff.1 h e he)
  rw [clear, hlive]

/-- A slot that is not live is not live after another one was cleared. -/
theorem material?_clear_eq_none (h : t.material? slot = none) (other : SlotId) :
    (t.clear other).material? slot = none := by
  by_cases hslot : slot = other
  · rw [hslot]
    exact material?_clear_self t other
  · rw [material?_clear_of_ne hslot, h]

namespace WellFormed

/-! ## The life of slots -/

theorem empty : WellFormed {} where
  liveCount_le := Nat.zero_le _
  number_le := nofun
  nodup := List.nodup_nil
  live_eq_nil _ := rfl

theorem initialise (h : t.WellFormed) : t.initialise.WellFormed where
  liveCount_le := h.liveCount_le
  number_le := h.number_le
  nodup := h.nodup
  live_eq_nil := nofun

theorem shutDown (t : SlotTable) : t.shutDown.WellFormed where
  liveCount_le := Nat.zero_le _
  number_le := nofun
  nodup := List.nodup_nil
  live_eq_nil _ := rfl

theorem clear (h : t.WellFormed) (slot : SlotId) : (t.clear slot).WellFormed where
  liveCount_le := Nat.le_trans (List.length_filter_le _ _) h.liveCount_le
  number_le e he := h.number_le e (List.mem_filter.1 he).1
  nodup := h.nodup.sublist (List.filter_sublist.map _)
  live_eq_nil hinit := by
    rw [SlotTable.clear, h.live_eq_nil hinit]
    rfl

/-- The slot that is filled next is not live. -/
theorem material?_next (h : t.WellFormed) : t.material? t.next = none := by
  rw [material?_eq_none_iff]
  intro e he hnext
  have hle := h.number_le e he
  rw [hnext, next] at hle
  exact absurd hle (Nat.not_succ_le_self _)

theorem fill (h : t.WellFormed) (hinit : t.initialised = true)
    (hroom : t.liveCount + 1 ≤ mostLive) (material : KeyMaterial) : (t.fill material).WellFormed where
  liveCount_le := hroom
  number_le e he := by
    rcases List.mem_cons.1 he with rfl | he
    · exact Nat.le_refl _
    · exact Nat.le_succ_of_le (h.number_le e he)
  nodup := by
    -- the number of the new slot has not been counted, so no live slot has it
    have hnext := material?_eq_none_iff.1 h.material?_next
    refine List.nodup_cons.2 ⟨?_, h.nodup⟩
    intro hmem
    obtain ⟨e, he, heq⟩ := List.mem_map.1 hmem
    exact hnext e he heq
  live_eq_nil hoff := by
    rw [show (t.fill material).initialised = t.initialised from rfl, hinit] at hoff
    cases hoff

end WellFormed

end SlotTable

end ModelProtection
