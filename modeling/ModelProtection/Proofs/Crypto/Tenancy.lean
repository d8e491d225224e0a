/-
Leases mirror the live slots.

The leases of a book and the slots of a table are two states that are changed by
different hands: a lease ends on its own, and a session that is closed clears the
slots of all leases without telling them. `Tenancy` puts the two side by side,
with one thing that neither of them keeps: the book as it was when a session last
shut the service down. The leases that were made since then and have not ended
are the `current` ones.

As long as slots are filled by leasing alone, every slot that was ever filled has
one lease, and the lease at a place of the book is of the slot with the number of
that place (`Mirrors.number_eq`). That is why no two leases are of one slot, and
why a lease from before a shutdown names none of the slots after it. Every event
keeps this (`Mirrors.step`), and then so does every run (`after_of_step`).
-/
import ModelProtection.Proofs.Crypto.Leases

set_option autoImplicit false

namespace ModelProtection

variable {t t' : SlotTable} {w : World}

/-! ## Runs -/

/-- What happens to a service and the leases over it: a request to the book, or a call of the service
that is made past it. -/
inductive TenancyEvent where
  | request (request : LeaseRequest)
  | call (call : SoftwareCall)

/-- An event that happens while the world is in some state. -/
structure PlacedEvent where
  event : TenancyEvent
  world : World

/-- Whether a request closes a session that is open. -/
def LeaseBook.shutsDown (b : LeaseBook) : LeaseRequest → Bool
  | .closeSession i => b.sessions[i]?.any Session.isOpen
  | _ => false

/-- A service with the leases and sessions over it. -/
structure Tenancy where
  table : SlotTable := {}
  book : LeaseBook := {}
  /-- The book as it was when a session last shut the service down. -/
  stopped : LeaseBook := {}

namespace Tenancy

/-- What a request comes to. -/
def handled (s : Tenancy) (r : LeaseRequest) (w : World) :
    ((LeaseAnswer × LeaseBook) × SlotTable) × World :=
  (s.book.handle r : OnWorld (LeaseAnswer × LeaseBook)) s.table w

/-- What an event leaves. -/
def step (s : Tenancy) (e : PlacedEvent) : Tenancy :=
  match e.event with
  | .request r =>
    { table := (s.handled r e.world).1.2
      book := (s.handled r e.world).1.1.2
      stopped := if s.book.shutsDown r then s.book else s.stopped }
  | .call c => { s with table := PlacedCall.next ⟨c, e.world⟩ s.table }

/-- What a list of events leaves. -/
def after (s : Tenancy) (events : List PlacedEvent) : Tenancy := events.foldl step s

/-- The leases that were made since the service was last shut down and have not ended. -/
def current (s : Tenancy) : List KeyLease :=
  (s.book.leases.drop s.stopped.leases.length).filter fun l => !l.released

/-- A request is refused and changes nothing. -/
def Refuses (s : Tenancy) (r : LeaseRequest) : Prop :=
  ∀ w, ∃ e, s.handled r w = (((.refused e, s.book), s.table), w)

end Tenancy

/-- Whether an event leaves it to leases to fill slots and to clear them. -/
def TenancyEvent.isManaged : TenancyEvent → Bool
  | .request (.adopt ..) => false
  | .request _ => true
  | .call c =>
    match c.kind with
    | .ask | .initialise => true
    | _ => false

theorem TenancyEvent.kind_of_isManaged {c : SoftwareCall}
    (h : (TenancyEvent.call c).isManaged = true) : c.kind = .ask ∨ c.kind = .initialise := by
  rw [isManaged] at h
  cases hkind : c.kind with
  | ask => exact .inl rfl
  | initialise => exact .inr rfl
  | _ =>
    rw [hkind] at h
    cases h

/-! ## Requests on what has ended -/

/-- Writing what stands at a place changes nothing. -/
theorem set_eq_self {α : Type} {l : List α} {i : Nat} {a : α} (h : l[i]? = some a) : l.set i a = l := by
  obtain ⟨hlt, rfl⟩ := List.getElem?_eq_some_iff.1 h
  exact List.set_getElem_self hlt

namespace KeyLease

variable {l other : KeyLease}

theorem id_of_released (h : l.released = true) :
    l.id = .error (.invalidSlot l.slot (.released l.role)) := by
  rw [id, if_pos h]

theorem encrypt_of_released (h : l.released = true) (message : Bytes) :
    (l.encrypt message : OnWorld (Except CryptoError (String × KeyLease)))
      = pure (.error (.invalidSlot l.slot (.released l.role))) := by
  rw [encrypt, id_of_released h]

theorem wrapKey_of_released (h : l.released = true ∨ other.released = true) :
    ∃ e, (l.wrapKey other : OnWorld (Except CryptoError (String × KeyLease))) = pure (.error e) := by
  unfold wrapKey
  by_cases hl : l.released = true
  · rw [id_of_released hl]
    exact ⟨_, rfl⟩
  · have hother := h.resolve_left hl
    rw [id_of_released hother, id, if_neg hl]
    exact ⟨_, rfl⟩

end KeyLease

namespace LeaseBook

variable {b : LeaseBook} {r : LeaseRequest} {i : Nat}

/-- The places of a book with one more lease are those that it had, and the one after them. -/
theorem getElem?_addLease {l l' : KeyLease} : (b.addLease l).leases[i]? = some l'
    ↔ b.leases[i]? = some l' ∨ (i = b.leases.length ∧ l' = l) := by
  rw [addLease, List.getElem?_append]
  by_cases hlt : i < b.leases.length
  · rw [if_pos hlt]
    exact ⟨.inl, fun h => h.resolve_right fun h => absurd h.1 (Nat.ne_of_lt hlt)⟩
  · rw [if_neg hlt, List.getElem?_singleton, List.getElem?_eq_none (Nat.le_of_not_lt hlt)]
    by_cases heq : i = b.leases.length
    · simp [heq, eq_comm]
    · rw [if_neg (by omega)]
      simp [heq]

/-- Where a lease has ended there is what has become of it, and what there was everywhere else. -/
theorem getElem?_set_released {l l' : KeyLease} {j : Nat} (h : b.leases[i]? = some l) :
    (b.leases.set i { l with released := true })[j]? = some l'
      ↔ (j = i ∧ l' = { l with released := true }) ∨ (j ≠ i ∧ b.leases[j]? = some l') := by
  rw [List.getElem?_set]
  by_cases hj : i = j
  · subst hj
    rw [if_pos rfl, if_pos (List.getElem?_eq_some_iff.1 h).1]
    simp [eq_comm]
  · rw [if_neg hj]
    simp [Ne.symm hj]

theorem handle_of_shutsDown (h : b.shutsDown r = true) :
    ∃ answer sessions, sessions.length = b.sessions.length
      ∧ ((b.handle r : OnWorld (LeaseAnswer × LeaseBook)) t w).1
        = ((answer, { b with sessions := sessions }), t.shutDown) := by
  cases r with
  | closeSession i =>
    obtain ⟨session, hsession, hopen⟩ := (Option.any_eq_true _ _).1 h
    rw [handle_closeSession hsession, if_pos hopen]
    exact ⟨_, _, List.length_set, rfl⟩
  | _ => cases h

/-- Only sessions that have been closed already are closed without shutting the service down. -/
theorem isOpen_of_not_shutsDown {session : Session} (hsession : b.sessions[i]? = some session)
    (h : b.shutsDown (.closeSession i) = false) : session.isOpen = false := by
  rw [shutsDown, hsession] at h
  exact h

end LeaseBook

/-- A lease that has ended stays in the book as it is. -/
theorem BookStep.leases_of_released {b b' : LeaseBook} {r : LeaseRequest} {i : Nat} {l : KeyLease}
    (hstep : BookStep t b r t' b') (h : b.leases[i]? = some l) (hreleased : l.released = true) :
    b'.leases[i]? = some l := by
  obtain ⟨hlt, -⟩ := List.getElem?_eq_some_iff.1 h
  cases hstep with
  | nothing => exact h
  | opened => exact h
  | closed => exact h
  | leased => exact (List.getElem?_append_left hlt).trans h
  | adopted => exact (List.getElem?_append_left hlt).trans h
  | @released k l' hl' =>
    rw [LeaseBook.getElem?_set_released hl']
    by_cases hk : i = k
    · -- ending it again makes the same of it
      subst hk
      rw [h] at hl'
      cases hl'
      exact .inl ⟨rfl, by rw [← hreleased]⟩
    · exact .inr ⟨hk, h⟩

namespace Tenancy

variable {s : Tenancy} {r : LeaseRequest} {i j : Nat} {l l' : KeyLease} {slot : SlotId}

/-- A request shuts the service down, or it does one of the other things that requests do. -/
theorem step_request (s : Tenancy) (r : LeaseRequest) (w : World) :
    (∃ sessions, sessions.length = s.book.sessions.length
        ∧ s.step ⟨.request r, w⟩
          = ⟨s.table.shutDown, { s.book with sessions := sessions }, s.book⟩)
      ∨ ∃ t' b', s.book.shutsDown r = false ∧ BookStep s.table s.book r t' b'
        ∧ s.step ⟨.request r, w⟩ = ⟨t', b', s.stopped⟩ := by
  by_cases hopen : s.book.shutsDown r = true
  · obtain ⟨answer, sessions, hlength, hhandled⟩ :=
      LeaseBook.handle_of_shutsDown (t := s.table) (w := w) hopen
    refine .inl ⟨sessions, hlength, ?_⟩
    simp only [step, handled, hhandled, if_pos hopen]
  · have hbook : BookStep s.table s.book r (s.handled r w).1.2 (s.handled r w).1.1.2 :=
      LeaseBook.handle_step rfl
    refine .inr ⟨_, _, Bool.eq_false_iff.2 hopen, hbook, ?_⟩
    simp only [step, if_neg hopen]

/-- What every event of some kind keeps holds after a run of such events. -/
theorem after_of_step {p : Tenancy → Prop} {q : PlacedEvent → Prop} {events : List PlacedEvent}
    (hstep : ∀ {s e}, q e → p s → p (s.step e)) (hevents : ∀ e ∈ events, q e) (h : p s) :
    p (s.after events) := by
  induction events generalizing s with
  | nil => exact h
  | cons e events ih =>
    obtain ⟨he, hrest⟩ := List.forall_mem_cons.1 hevents
    exact ih hrest (hstep he h)

/-! ### Leases that have ended -/

theorem refuses_encrypt (h : s.book.leases[i]? = some l) (hreleased : l.released = true)
    (message : Bytes) : s.Refuses (.encrypt i message) := by
  intro w
  unfold handled
  rw [LeaseBook.handle, h]
  dsimp only
  rw [KeyLease.encrypt_of_released hreleased]
  exact ⟨_, rfl⟩

theorem refuses_wrapKey (h : s.book.leases[i]? = some l) (h' : s.book.leases[j]? = some l')
    (hreleased : l.released = true ∨ l'.released = true) : s.Refuses (.wrapKey i j) := by
  intro w
  obtain ⟨e, he⟩ := KeyLease.wrapKey_of_released hreleased
  unfold handled
  rw [LeaseBook.handle, h, h']
  dsimp only
  rw [he]
  exact ⟨e, rfl⟩

/-- Ending a lease that has ended does nothing. -/
theorem handled_release_of_released (h : s.book.leases[i]? = some l) (hreleased : l.released = true)
    (w : World) : s.handled (.release i) w = (((.done, s.book), s.table), w) := by
  have hsame : { l with released := true } = l := by rw [← hreleased]
  unfold handled
  rw [LeaseBook.handle_release h, if_pos hreleased, hsame, set_eq_self h]

theorem leases_step_of_released (hreleased : l.released = true) {e : PlacedEvent}
    (h : s.book.leases[i]? = some l) : (s.step e).book.leases[i]? = some l := by
  obtain ⟨event, w⟩ := e
  cases event with
  | call c => exact h
  | request r =>
    rcases s.step_request r w with ⟨sessions, -, hstep⟩ | ⟨t', b', -, hbook, hstep⟩
    · rw [hstep]
      exact h
    · rw [hstep]
      exact hbook.leases_of_released h hreleased

/-! ### The invariant -/

/-- A slot is that of a current lease if its lease is at a place after those of the shutdown, and has
not ended. -/
theorem mem_slots_current : slot ∈ s.current.map KeyLease.slot
    ↔ ∃ i l, s.stopped.leases.length ≤ i ∧ s.book.leases[i]? = some l ∧ l.released = false
      ∧ l.slot = slot := by
  have hmem : ∀ l, l ∈ s.current ↔ l.released = false
      ∧ ∃ i, s.stopped.leases.length ≤ i ∧ s.book.leases[i]? = some l := by
    intro l
    rw [current, List.mem_filter, Bool.not_eq_true', and_comm, List.mem_iff_getElem?]
    refine and_congr_right fun _ => ⟨?_, ?_⟩
    · rintro ⟨k, hk⟩
      rw [List.getElem?_drop] at hk
      exact ⟨_, Nat.le_add_right _ _, hk⟩
    · rintro ⟨i, hle, hi⟩
      refine ⟨i - s.stopped.leases.length, ?_⟩
      rw [List.getElem?_drop, Nat.add_sub_cancel' hle, hi]
  rw [List.mem_map]
  constructor
  · rintro ⟨l, hl, hslot⟩
    obtain ⟨hreleased, i, hle, hi⟩ := (hmem l).1 hl
    exact ⟨i, l, hle, hi, hreleased, hslot⟩
  · rintro ⟨i, l, hle, hi, hreleased, hslot⟩
    exact ⟨l, (hmem l).2 ⟨hreleased, i, hle, hi⟩, hslot⟩

/-- What holds of a tenancy in which slots are filled by leasing alone. -/
structure Mirrors (s : Tenancy) : Prop where
  /-- Every slot that was filled has a lease. -/
  issued_eq : s.table.issued = s.book.leases.length
  /-- The lease at a place is of the slot with the number of that place. -/
  number_eq : ∀ i l, s.book.leases[i]? = some l → l.slot.number = i + 1
  /-- Leases are not struck from the book. -/
  stopped_le : s.stopped.leases.length ≤ s.book.leases.length
  /-- The live slots are those of the current leases. -/
  live_iff : ∀ slot, s.table.material? slot ≠ none ↔ slot ∈ s.current.map KeyLease.slot

namespace Mirrors

/-- No two leases are of one slot. -/
theorem place_eq (h : s.Mirrors) (hl : s.book.leases[i]? = some l)
    (hl' : s.book.leases[j]? = some l') (hslot : l.slot = l'.slot) : i = j := by
  have hi := h.number_eq i l hl
  have hj := h.number_eq j l' hl'
  rw [hslot, hj] at hi
  exact (Nat.succ.inj hi).symm

/-- The slot of a lease that is not current is gone. -/
theorem material?_eq_none (h : s.Mirrors) (hl : s.book.leases[i]? = some l)
    (hold : l.released = true ∨ i < s.stopped.leases.length) : s.table.material? l.slot = none := by
  refine Decidable.not_not.1 fun hlive => ?_
  obtain ⟨j, l', hle, hl', hreleased, hslot⟩ := mem_slots_current.1 ((h.live_iff _).1 hlive)
  obtain rfl := h.place_eq hl' hl hslot
  rw [hl] at hl'
  cases hl'
  rcases hold with hold | hold
  · rw [hold] at hreleased
    cases hreleased
  · exact absurd hle (Nat.not_le_of_lt hold)

/-- Ending a lease that is not current clears nothing. -/
theorem clear_eq_self (h : s.Mirrors) (hl : s.book.leases[i]? = some l)
    (hold : l.released = true ∨ i < s.stopped.leases.length) :
    (if l.released then s.table else s.table.clear l.slot) = s.table := by
  rw [SlotTable.clear_eq_self (h.material?_eq_none hl hold), ite_self]

theorem start : Mirrors {} where
  issued_eq := rfl
  number_eq := nofun
  stopped_le := Nat.le_refl _
  live_iff _ := ⟨fun h => absurd rfl h, nofun⟩

theorem backs (h : s.Mirrors) : s.table.Backs s.book.leases where
  counted l hl := by
    obtain ⟨i, hi⟩ := List.mem_iff_getElem?.1 hl
    rw [h.number_eq i l hi, h.issued_eq]
    exact (List.getElem?_eq_some_iff.1 hi).1
  spent l hl hreleased := by
    obtain ⟨i, hi⟩ := List.mem_iff_getElem?.1 hl
    exact h.material?_eq_none hi (.inl hreleased)

/-- Nothing but the slots and the leases matters. -/
theorem of_eq {b' : LeaseBook} (h : s.Mirrors) (hissued : t'.issued = s.table.issued)
    (hlive : t'.live = s.table.live) (hleases : b'.leases = s.book.leases) :
    Mirrors ⟨t', b', s.stopped⟩ := by
  constructor
  · rw [hissued, hleases]
    exact h.issued_eq
  · rw [hleases]
    exact h.number_eq
  · rw [hleases]
    exact h.stopped_le
  · intro slot
    rw [SlotTable.material?, hlive, current, hleases]
    exact h.live_iff slot

/-- When the service is shut down all slots are cleared, and no lease is current any more. -/
theorem shutDown (h : s.Mirrors) (sessions : List Session) :
    Mirrors ⟨s.table.shutDown, { s.book with sessions := sessions }, s.book⟩ where
  issued_eq := h.issued_eq
  number_eq := h.number_eq
  stopped_le := Nat.le_refl _
  live_iff slot := by
    refine ⟨fun hlive => absurd rfl hlive, fun hmem => ?_⟩
    -- there is no lease at any place after those of the shutdown
    obtain ⟨i, l, hle, hl, -⟩ := mem_slots_current.1 hmem
    exact absurd (List.getElem?_eq_some_iff.1 hl).1 (Nat.not_lt_of_le hle)

/-- A slot is filled, and its lease is the last in the book. -/
theorem lease {role : KeyRole} (h : s.Mirrors) (hlends : s.table.Lends role l t') :
    Mirrors ⟨t', s.book.addLease l, s.stopped⟩ := by
  obtain ⟨-, rfl, material, rfl⟩ := hlends
  constructor
  · change s.table.issued + 1 = (s.book.leases ++ [_]).length
    rw [List.length_append, List.length_singleton, h.issued_eq]
  · intro i l hl
    rcases LeaseBook.getElem?_addLease.1 hl with hl | ⟨rfl, rfl⟩
    · exact h.number_eq i l hl
    · exact congrArg Nat.succ h.issued_eq
  · exact Nat.le_trans h.stopped_le (List.prefix_append _ _).length_le
  · intro slot
    by_cases hslot : slot = s.table.next
    · refine iff_of_true ?_ ?_
      · rw [hslot, SlotTable.material?_fill_next]
        exact Option.some_ne_none _
      · exact mem_slots_current.2 ⟨_, _, h.stopped_le,
          LeaseBook.getElem?_addLease.2 (.inr ⟨rfl, rfl⟩), rfl, hslot.symm⟩
    · rw [SlotTable.material?_fill_of_ne hslot, h.live_iff, mem_slots_current, mem_slots_current]
      refine exists_congr fun i => exists_congr fun l => and_congr_right fun _ => ?_
      rw [LeaseBook.getElem?_addLease]
      refine ⟨fun hl => ⟨.inl hl.1, hl.2⟩, ?_⟩
      rintro ⟨hl | ⟨-, rfl⟩, hreleased, rfl⟩
      · exact ⟨hl, hreleased, rfl⟩
      · exact absurd rfl hslot

/-- A lease ends. No other lease is of its slot, so all others are as current as they were. -/
theorem release (h : s.Mirrors) (hl : s.book.leases[i]? = some l) :
    Mirrors ⟨if l.released then s.table else s.table.clear l.slot,
      { s.book with leases := s.book.leases.set i { l with released := true } }, s.stopped⟩ := by
  constructor
  · have hissued : (if l.released then s.table else s.table.clear l.slot).issued
        = s.table.issued := by split <;> rfl
    rw [List.length_set, hissued]
    exact h.issued_eq
  · intro j l' hl'
    rcases (LeaseBook.getElem?_set_released hl).1 hl' with ⟨rfl, rfl⟩ | ⟨-, hl'⟩
    · exact h.number_eq j l hl
    · exact h.number_eq j l' hl'
  · rw [List.length_set]
    exact h.stopped_le
  · intro slot
    -- on both sides the slot of the lease goes, and nothing else does
    have hlive : (if l.released then s.table else s.table.clear l.slot).material? slot ≠ none
        ↔ slot ≠ l.slot ∧ s.table.material? slot ≠ none := by
      by_cases hslot : slot = l.slot
      · rw [hslot, h.backs.release (List.mem_of_getElem? hl)]
        exact ⟨fun hlive => absurd rfl hlive, fun hlive => absurd rfl hlive.1⟩
      · have hsame : (if l.released then s.table else s.table.clear l.slot).material? slot
            = s.table.material? slot := by
          split
          · rfl
          · exact SlotTable.material?_clear_of_ne hslot
        rw [hsame]
        exact (and_iff_right hslot).symm
    rw [hlive, h.live_iff, mem_slots_current, mem_slots_current]
    constructor
    · rintro ⟨hslot, j, l', hle, hl', hreleased, rfl⟩
      have hj : j ≠ i := by
        rintro rfl
        rw [hl] at hl'
        cases hl'
        exact hslot rfl
      exact ⟨j, l', hle, (LeaseBook.getElem?_set_released hl).2 (.inr ⟨hj, hl'⟩), hreleased, rfl⟩
    · rintro ⟨j, l', hle, hl', hreleased, rfl⟩
      rcases (LeaseBook.getElem?_set_released hl).1 hl' with ⟨-, rfl⟩ | ⟨hj, hl'⟩
      · cases hreleased
      · exact ⟨fun hslot => hj (h.place_eq hl' hl hslot), j, l', hle, hl', hreleased, rfl⟩

/-- A request keeps the invariant, unless it takes a slot over or shuts the service down. -/
theorem bookStep {b' : LeaseBook} (h : s.Mirrors) (hstep : BookStep s.table s.book r t' b')
    (hr : (TenancyEvent.request r).isManaged = true) (hopen : s.book.shutsDown r = false) :
    Mirrors ⟨t', b', s.stopped⟩ := by
  cases hstep with
  | nothing => exact h
  | opened => exact h.of_eq rfl rfl rfl
  | @closed i session hsession =>
    rw [LeaseBook.isOpen_of_not_shutsDown hsession hopen, if_neg Bool.false_ne_true]
    exact h.of_eq rfl rfl rfl
  | leased hlends => exact h.lease hlends
  | adopted => cases hr
  | released hl => exact h.release hl

/-- A call keeps the invariant if it neither fills slots nor clears them. -/
theorem call {c : SoftwareCall} (h : s.Mirrors) (hc : (TenancyEvent.call c).isManaged = true)
    (w : World) : Mirrors { s with table := PlacedCall.next ⟨c, w⟩ s.table } := by
  rcases PlacedCall.outcome ⟨c, w⟩ s.table with ⟨-, -, hnext⟩ | ⟨-, heffect, -⟩
  · rw [hnext]
    exact h
  · dsimp only at heffect
    rcases TenancyEvent.kind_of_isManaged hc with hkind | hkind
    · rw [hkind] at heffect
      rw [heffect.eq_of_ask]
      exact h
    · rw [hkind] at heffect
      rw [heffect.eq_of_initialise]
      exact h.of_eq rfl rfl rfl

theorem step {e : PlacedEvent} (he : e.event.isManaged = true) (h : s.Mirrors) :
    (s.step e).Mirrors := by
  obtain ⟨event, w⟩ := e
  cases event with
  | call c => exact h.call he w
  | request r =>
    rcases s.step_request r w with ⟨sessions, -, hstep⟩ | ⟨t', b', hopen, hbook, hstep⟩
    · rw [hstep]
      exact h.shutDown sessions
    · rw [hstep]
      exact h.bookStep hbook he hopen

/-- The slots of leases are all different, so the live slots are those of the current leases one by
one. -/
theorem live_perm (h : s.Mirrors) (ht : s.table.WellFormed) :
    (s.table.live.map Prod.fst).Perm (s.current.map KeyLease.slot) := by
  have hleases : (s.book.leases.map KeyLease.slot).Nodup := by
    rw [List.Nodup, List.pairwise_map, List.pairwise_iff_getElem]
    intro i j hi hj hlt hslot
    have heq := h.place_eq (List.getElem?_eq_getElem hi) (List.getElem?_eq_getElem hj) hslot
    exact absurd heq (Nat.ne_of_lt hlt)
  have hcurrent : (s.current.map KeyLease.slot).Nodup :=
    hleases.sublist ((List.filter_sublist.trans (List.drop_sublist _ _)).map _)
  rw [List.perm_ext_iff_of_nodup ht.nodup hcurrent]
  intro slot
  rw [← h.live_iff, ne_eq, SlotTable.material?_eq_none_iff, List.mem_map]
  constructor
  · rintro ⟨e, he, rfl⟩ hnone
    exact hnone e he rfl
  · intro hlive
    refine Decidable.not_not.1 fun hnone => hlive fun e he heq => hnone ⟨e, he, heq⟩

end Mirrors

/-- Where slots are filled by leasing alone, no lease is taken over at all. -/
theorem leaseHistory_step {e : PlacedEvent} (he : e.event.isManaged = true)
    (h : LeaseHistory s.table s.book) : LeaseHistory (s.step e).table (s.step e).book := by
  obtain ⟨event, w⟩ := e
  cases event with
  | call c => exact h.call ⟨c, w⟩
  | request r =>
    have hr : r.Permitted s.table := by
      cases r with
      | adopt => cases he
      | _ => trivial
    exact h.request r w hr rfl

end Tenancy

/-- **Leases mirror the live slots.** Where slots are filled by leasing alone, the live slots are at
every point those of the leases that have not ended and were made since a session last shut the
service down, one for one. No two leases, of whatever time, are of one slot. A lease that has ended
never tells its slot again, whatever happens later: every request that needs it is refused and changes
nothing, and ending it once more does nothing. A lease from before the shutdown clears nothing when it
ends. -/
theorem leases_mirror_live_slots (past : List PlacedEvent)
    (hmanaged : ∀ e ∈ past, e.event.isManaged = true) :
    let s := Tenancy.after {} past
    (s.table.live.map Prod.fst).Perm (s.current.map KeyLease.slot)
      ∧ (∀ (i j : Nat) (l l' : KeyLease), s.book.leases[i]? = some l →
          s.book.leases[j]? = some l' → l.slot = l'.slot → i = j)
      ∧ (∀ (i : Nat) (l : KeyLease), s.book.leases[i]? = some l → l.released = true →
          l.id = .error (.invalidSlot l.slot (.released l.role))
            ∧ ∀ later : List PlacedEvent,
              let u := s.after later
              u.book.leases[i]? = some l
                ∧ (∀ message, u.Refuses (.encrypt i message))
                ∧ (∀ (j : Nat) (l' : KeyLease), u.book.leases[j]? = some l' →
                    u.Refuses (.wrapKey i j) ∧ u.Refuses (.wrapKey j i))
                ∧ ∀ w, u.handled (.release i) w = (((.done, u.book), u.table), w))
      ∧ ∀ (i : Nat) (l : KeyLease) (w : World), s.book.leases[i]? = some l →
          i < s.stopped.leases.length → (s.step ⟨.request (.release i), w⟩).table = s.table := by
  intro s
  have h : s.Mirrors := Tenancy.after_of_step Tenancy.Mirrors.step hmanaged .start
  have hhistory : LeaseHistory s.table s.book :=
    Tenancy.after_of_step (p := fun s => LeaseHistory s.table s.book) Tenancy.leaseHistory_step
      hmanaged .start
  refine ⟨h.live_perm hhistory.wellFormed, ?_, ?_, ?_⟩
  · intro i j l l' hl hl' hslot
    exact h.place_eq hl hl' hslot
  · intro i l hl hreleased
    refine ⟨KeyLease.id_of_released hreleased, ?_⟩
    intro later u
    have hu : u.book.leases[i]? = some l :=
      Tenancy.after_of_step (p := fun s => s.book.leases[i]? = some l) (q := fun _ => True)
        (fun _ => Tenancy.leases_step_of_released hreleased) (fun _ _ => trivial) hl
    refine ⟨hu, Tenancy.refuses_encrypt hu hreleased, ?_,
      Tenancy.handled_release_of_released hu hreleased⟩
    intro j l' hl'
    exact ⟨Tenancy.refuses_wrapKey hu hl' (.inl hreleased),
      Tenancy.refuses_wrapKey hl' hu (.inr hreleased)⟩
  · intro i l w hl hold
    change (s.handled (.release i) w).1.2 = s.table
    rw [Tenancy.handled, LeaseBook.handle_release hl]
    exact h.clear_eq_self hl (.inr hold)

/-- A key is leased, and its session closed. Another key is leased in a second session, and is live
still after the first lease has ended. -/
theorem leases_mirror_live_slots_sample :
    let past : List PlacedEvent := [⟨.request .openSession, .bare⟩,
      ⟨.request (.generateContentKey 32), .bare⟩, ⟨.request (.closeSession 0), .bare⟩,
      ⟨.request .openSession, .bare⟩, ⟨.request (.generateContentKey 32), .bare⟩,
      ⟨.request (.release 0), .bare⟩]
    (∀ e ∈ past, e.event.isManaged = true)
      ∧ (Tenancy.after {} past).table.live.map Prod.fst = [⟨2⟩] := by
  intro past
  have hmanaged : ∀ e ∈ past, e.event.isManaged = true := by decide
  have hcurrent : (Tenancy.after {} past).current.map KeyLease.slot = [⟨2⟩] := rfl
  have hperm := (leases_mirror_live_slots past hmanaged).1
  rw [hcurrent] at hperm
  exact ⟨hmanaged, List.perm_singleton.1 hperm⟩

end ModelProtection
