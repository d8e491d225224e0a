/-
Leases of slots over a service that others use too.

A service and a book of leases over it change by calls of the service and by
requests to the book. `LeaseHistory` holds of what they can come to, from a new
service and an empty book. One thing is asked of a lease that is taken over from
somebody else: that it is for a slot that was filled before. What it is taken for
is not checked, so its role may be wrong and its slot may have been cleared.

A request to a book does one of six things (`LeaseBook.handle_step`), and each
keeps the book sound: a lease that has ended is one of a slot that is gone.
-/
import ModelProtection.Crypto.LeaseBook
import ModelProtection.Proofs.Crypto.History

set_option autoImplicit false

namespace ModelProtection

variable {t t' : SlotTable} {w : World}

/-! ## Leases that are made -/

/-- A slot was filled, and this is the lease of it. -/
def SlotTable.Lends (t : SlotTable) (role : KeyRole) (l : KeyLease) (t' : SlotTable) : Prop :=
  t.HasRoom 1 ∧ l = ⟨t.next, role, false⟩ ∧ ∃ material, t' = t.fill material

namespace KeyLease

theorem loadIdentity_answers (keystore : Path) :
    Answers (loadIdentity keystore : OnWorld (Except CryptoError KeyLease)) t w
      (t.Lends .identity) := by
  refine Answers.map ((ModelProtection.loadIdentity_answers keystore).mono ?_)
  rintro id t' ⟨material, rfl, rfl, hroom⟩
  exact ⟨hroom, rfl, material, rfl⟩

theorem generateContentKey_answers (size : Nat) :
    Answers (generateContentKey size : OnWorld (Except CryptoError KeyLease)) t w
      (t.Lends .content) := by
  refine Answers.map ((ModelProtection.generateContentKey_answers size).mono ?_)
  rintro id t' ⟨material, rfl, rfl, hroom⟩
  exact ⟨hroom, rfl, material, rfl⟩

/-- A key of which the lease has ended is not used, and one that is used has a live slot. -/
theorem encrypt_answers (content : KeyLease) (message : Bytes) :
    Answers (content.encrypt message : OnWorld (Except CryptoError (String × KeyLease))) t w
      fun p t' => t.Lends .derived p.2 t' := by
  rw [encrypt, id]
  by_cases hreleased : content.released = true
  · rw [if_pos hreleased]
    exact ⟨rfl⟩
  · rw [if_neg hreleased]
    refine Answers.map ((ModelProtection.encrypt_answers message).mono ?_)
    rintro ⟨text, slot⟩ t' ⟨⟨material, rfl, rfl⟩, hroom, -⟩
    exact ⟨hroom, rfl, material, rfl⟩

theorem wrapKey_answers (identity content : KeyLease) :
    Answers (identity.wrapKey content : OnWorld (Except CryptoError (String × KeyLease))) t w
      fun p t' => t.Lends .derived p.2 t' := by
  rw [wrapKey, id, id]
  by_cases hidentity : identity.released = true
  · rw [if_pos hidentity]
    exact ⟨rfl⟩
  by_cases hcontent : content.released = true
  · rw [if_neg hidentity, if_pos hcontent]
    exact ⟨rfl⟩
  · rw [if_neg hidentity, if_neg hcontent]
    refine Answers.map (ModelProtection.wrapKey_answers.mono ?_)
    rintro ⟨text, slot⟩ t' ⟨⟨material, rfl, rfl⟩, hroom, -⟩
    exact ⟨hroom, rfl, material, rfl⟩

end KeyLease

/-! ## Requests to a book -/

/-- What a request can do to a table and a book. -/
inductive BookStep (t : SlotTable) (b : LeaseBook) : LeaseRequest → SlotTable → LeaseBook → Prop
  /-- The request was refused, or names what is not there. -/
  | nothing (r : LeaseRequest) : BookStep t b r t b
  | opened : BookStep t b .openSession t.initialise { b with sessions := b.sessions ++ [{}] }
  | closed {i : Nat} {s : Session} (hs : b.sessions[i]? = some s) :
    BookStep t b (.closeSession i) (if s.isOpen then t.shutDown else t)
      { b with sessions := b.sessions.set i { s with isOpen := false } }
  | leased {r : LeaseRequest} {role : KeyRole} {l : KeyLease} {t' : SlotTable}
    (hlends : t.Lends role l t') : BookStep t b r t' (b.addLease l)
  | adopted (slot : SlotId) (role : KeyRole) :
    BookStep t b (.adopt slot role) t (b.addLease { slot, role })
  | released {i : Nat} {l : KeyLease} (hl : b.leases[i]? = some l) :
    BookStep t b (.release i) (if l.released then t else t.clear l.slot)
      { b with leases := b.leases.set i { l with released := true } }

namespace LeaseBook

variable {b : LeaseBook} {r : LeaseRequest}

/-- A request that makes a call for a lease adds the lease to the book, unless the call fails. -/
theorem leasing_step {α : Type} {role : KeyRole} {request : OnWorld (Except CryptoError α)}
    {lease : α → KeyLease} {entry : Except CryptoError α → LeaseAnswer × LeaseBook}
    {p : ((LeaseAnswer × LeaseBook) × SlotTable) × World}
    (h : Answers request t w fun a t' => t.Lends role (lease a) t')
    (herror : ∀ e, (entry (.error e)).2 = b) (hok : ∀ a, (entry (.ok a)).2 = b.addLease (lease a))
    (hp : (do return entry (← request) : OnWorld (LeaseAnswer × LeaseBook)) t w = p) :
    BookStep t b r p.1.2 p.1.1.2 := by
  subst hp
  rcases h.cases with ⟨e, w', hx⟩ | ⟨a, t', w', hx, hlends⟩
  · rw [OnWorld.bind_eq hx]
    change BookStep t b r t (entry (.error e)).2
    rw [herror]
    exact .nothing r
  · rw [OnWorld.bind_eq hx]
    change BookStep t b r t' (entry (.ok a)).2
    rw [hok]
    exact .leased hlends

/-- A session is closed, and one that was open shuts the service down. Leases are not told. -/
theorem handle_closeSession {i : Nat} {session : Session} (h : b.sessions[i]? = some session) :
    (b.handle (.closeSession i) : OnWorld (LeaseAnswer × LeaseBook)) t w
      = (((.done, { b with sessions := b.sessions.set i { session with isOpen := false } }),
          if session.isOpen then t.shutDown else t), w) := by
  rw [handle, h]
  obtain ⟨isOpen⟩ := session
  cases isOpen with
  | true => rfl
  | false => rfl

/-- A lease ends, and one that had not ended before clears its slot. -/
theorem handle_release {i : Nat} {l : KeyLease} (h : b.leases[i]? = some l) :
    (b.handle (.release i) : OnWorld (LeaseAnswer × LeaseBook)) t w
      = (((.done, { b with leases := b.leases.set i { l with released := true } }),
          if l.released then t else t.clear l.slot), w) := by
  rw [handle, h]
  obtain ⟨slot, role, released⟩ := l
  cases released with
  | true => rfl
  | false => rfl

/-- Whatever is requested, one of these things happens. -/
theorem handle_step {p : ((LeaseAnswer × LeaseBook) × SlotTable) × World}
    (hp : (b.handle r : OnWorld (LeaseAnswer × LeaseBook)) t w = p) :
    BookStep t b r p.1.2 p.1.1.2 := by
  cases r with
  | openSession =>
    subst hp
    exact .opened
  | closeSession i =>
    cases hs : b.sessions[i]? with
    | none =>
      rw [handle, hs] at hp
      subst hp
      exact .nothing _
    | some s =>
      rw [handle_closeSession hs] at hp
      subst hp
      exact .closed hs
  | loadIdentity keystore =>
    exact leasing_step (KeyLease.loadIdentity_answers keystore) (fun _ => rfl) (fun _ => rfl) hp
  | generateContentKey size =>
    exact leasing_step (KeyLease.generateContentKey_answers size) (fun _ => rfl) (fun _ => rfl) hp
  | adopt slot role =>
    subst hp
    exact .adopted slot role
  | encrypt i message =>
    rw [handle] at hp
    cases hcontent : b.leases[i]? with
    | none =>
      rw [hcontent] at hp
      subst hp
      exact .nothing _
    | some content =>
      rw [hcontent] at hp
      exact leasing_step (content.encrypt_answers message) (fun _ => rfl) (fun _ => rfl) hp
  | wrapKey i j =>
    rw [handle] at hp
    cases hidentity : b.leases[i]? with
    | none =>
      rw [hidentity] at hp
      subst hp
      exact .nothing _
    | some identity =>
      cases hcontent : b.leases[j]? with
      | none =>
        rw [hidentity, hcontent] at hp
        subst hp
        exact .nothing _
      | some content =>
        rw [hidentity, hcontent] at hp
        exact leasing_step (identity.wrapKey_answers content) (fun _ => rfl) (fun _ => rfl) hp
  | release i =>
    cases hl : b.leases[i]? with
    | none =>
      rw [handle, hl] at hp
      subst hp
      exact .nothing _
    | some l =>
      rw [handle_release hl] at hp
      subst hp
      exact .released hl

end LeaseBook

/-! ## Histories -/

/-- A lease is taken over only for a slot that was filled before. -/
def LeaseRequest.Permitted (t : SlotTable) : LeaseRequest → Prop
  | adopt slot _ => slot.number ≤ t.issued
  | _ => True

/-- What a service and the leases over it can come to. -/
inductive LeaseHistory : SlotTable → LeaseBook → Prop
  | start : LeaseHistory {} {}
  | call {t : SlotTable} {b : LeaseBook} (h : LeaseHistory t b) (p : PlacedCall) :
    LeaseHistory (p.next t) b
  | request {t : SlotTable} {b : LeaseBook} (h : LeaseHistory t b) (r : LeaseRequest) (w : World)
    (hr : r.Permitted t) {p : ((LeaseAnswer × LeaseBook) × SlotTable) × World}
    (hp : (b.handle r : OnWorld (LeaseAnswer × LeaseBook)) t w = p) : LeaseHistory p.1.2 p.1.1.2

/-- Leases are of slots that were filled, and those that have ended of slots that are gone. -/
structure SlotTable.Backs (t : SlotTable) (leases : List KeyLease) : Prop where
  counted : ∀ l ∈ leases, l.slot.number ≤ t.issued
  spent : ∀ l ∈ leases, l.released = true → t.material? l.slot = none

/-- A request does to the table what one call does, or nothing. -/
theorem BookStep.effect {b b' : LeaseBook} {r : LeaseRequest} (h : BookStep t b r t' b') :
    t' = t ∨ ∃ kind slots, Effect t kind slots t' := by
  cases h with
  | nothing => exact .inl rfl
  | opened => exact .inr ⟨_, _, .initialise⟩
  | @closed i s hs =>
    by_cases hopen : s.isOpen = true
    · rw [if_pos hopen]
      exact .inr ⟨_, _, .shutDown⟩
    · rw [if_neg hopen]
      exact .inl rfl
  | leased hlends =>
    obtain ⟨hroom, -, material, rfl⟩ := hlends
    exact .inr ⟨_, _, .fill hroom material⟩
  | adopted => exact .inl rfl
  | @released i l hl =>
    by_cases hreleased : l.released = true
    · rw [if_pos hreleased]
      exact .inl rfl
    · rw [if_neg hreleased]
      exact .inr ⟨_, _, .clear l.slot⟩

namespace SlotTable.Backs

variable {leases : List KeyLease} {l : KeyLease}

/-- The count of filled slots goes on and slots that are gone stay away, whatever happens. -/
theorem effect {kind : CallKind} {slots : List SlotId} (h : t.Backs leases)
    (heffect : Effect t kind slots t') : t'.Backs leases where
  counted l hl := by
    rw [heffect.issued_eq]
    exact Nat.le_add_right_of_le (h.counted l hl)
  spent l hl hreleased := by
    rw [heffect.material?_eq (h.counted l hl), h.spent l hl hreleased, ite_self]

theorem next (h : t.Backs leases) (p : PlacedCall) : (p.next t).Backs leases := by
  rcases p.outcome t with ⟨-, -, hnext⟩ | ⟨-, heffect, -⟩
  · rw [hnext]
    exact h
  · exact h.effect heffect

/-- A lease begins. -/
theorem append (h : t.Backs leases) (hl : l.slot.number ≤ t.issued)
    (hreleased : l.released = true → t.material? l.slot = none) : t.Backs (leases ++ [l]) := by
  constructor
  · intro l' hl'
    rcases List.mem_append.1 hl' with hl' | hl'
    · exact h.counted l' hl'
    · rw [List.mem_singleton.1 hl']
      exact hl
  · intro l' hl' hreleased'
    rcases List.mem_append.1 hl' with hl' | hl'
    · exact h.spent l' hl' hreleased'
    · rw [List.mem_singleton.1 hl'] at hreleased' ⊢
      exact hreleased hreleased'

/-- A lease is replaced by what has become of it. -/
theorem set (h : t.Backs leases) (i : Nat) (hl : l.slot.number ≤ t.issued)
    (hreleased : l.released = true → t.material? l.slot = none) : t.Backs (leases.set i l) := by
  constructor
  · intro l' hl'
    rcases List.mem_or_eq_of_mem_set hl' with hl' | rfl
    · exact h.counted l' hl'
    · exact hl
  · intro l' hl' hreleased'
    rcases List.mem_or_eq_of_mem_set hl' with hl' | rfl
    · exact h.spent l' hl' hreleased'
    · exact hreleased hreleased'

/-- A lease that ends is one of a slot that is gone by then. -/
theorem release (h : t.Backs leases) (hl : l ∈ leases) :
    (if l.released then t else t.clear l.slot).material? l.slot = none := by
  by_cases hreleased : l.released = true
  · rw [if_pos hreleased]
    exact h.spent l hl hreleased
  · rw [if_neg hreleased]
    exact material?_clear_self t l.slot

theorem step {b b' : LeaseBook} {r : LeaseRequest} (h : BookStep t b r t' b')
    (hr : r.Permitted t) (hb : t.Backs b.leases) : t'.Backs b'.leases := by
  -- the leases that were in the book first, then the one that the request adds or changes
  have hold : t'.Backs b.leases := by
    rcases h.effect with rfl | ⟨kind, slots, heffect⟩
    · exact hb
    · exact hb.effect heffect
  cases h with
  | nothing => exact hold
  | opened => exact hold
  | closed => exact hold
  | leased hlends =>
    obtain ⟨-, rfl, material, rfl⟩ := hlends
    exact hold.append (Nat.le_refl _) nofun
  | adopted slot role => exact hold.append hr nofun
  | @released i l hl =>
    have hmem := List.mem_of_getElem? hl
    exact hold.set i (hold.counted l hmem) fun _ => hb.release hmem

end SlotTable.Backs

namespace LeaseHistory

variable {b : LeaseBook}

theorem wellFormed (h : LeaseHistory t b) : t.WellFormed := by
  induction h with
  | start => exact .empty
  | call _ p ih => exact p.next_wellFormed ih
  | request _ _ _ _ hp ih =>
    rcases (LeaseBook.handle_step hp).effect with ht | ⟨kind, slots, heffect⟩
    · rw [ht]
      exact ih
    · exact heffect.wellFormed ih

theorem backs (h : LeaseHistory t b) : t.Backs b.leases := by
  induction h with
  | start => exact ⟨nofun, nofun⟩
  | call _ p ih => exact ih.next p
  | request _ _ _ hr hp ih => exact SlotTable.Backs.step (LeaseBook.handle_step hp) hr ih

end LeaseHistory

end ModelProtection
