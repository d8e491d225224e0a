/-
Sessions that overlap.

A session starts the service when it is opened and stops it when it is closed.
Both act on the one flag that the service has, and nobody counts the sessions, so
the first of them to be closed stops the service for all
(`closing_a_session_stops_another`). What a session can rely on is said in terms
of the last shutdown: the sessions that were opened since then are all open, and
as long as there is one the service runs (`Tenancy.Serves`).
-/
import ModelProtection.Proofs.Crypto.Tenancy

set_option autoImplicit false

namespace ModelProtection

variable {t t' : SlotTable} {w : World}

/-- Nothing but a shutdown stops the service. -/
theorem Effect.initialised_eq_true {kind : CallKind} {slots : List SlotId}
    (h : Effect t kind slots t') (hkind : kind ≠ .shutDown) (ht : t.initialised = true) :
    t'.initialised = true := by
  cases h with
  | initialise => rfl
  | shutDown => exact absurd rfl hkind
  | _ => exact ht

theorem SoftwareCall.kind_ne_shutDown {c : SoftwareCall} (h : c ≠ .shutDown) : c.kind ≠ .shutDown := by
  cases c with
  | shutDown => exact absurd rfl h
  | _ => nofun

namespace Tenancy

variable {s : Tenancy} {r : LeaseRequest} {i : Nat} {session : Session}

/-- What holds of a tenancy in which the service is stopped by sessions alone. -/
structure Serves (s : Tenancy) : Prop where
  /-- Sessions are not struck from the book. -/
  stopped_le : s.stopped.sessions.length ≤ s.book.sessions.length
  /-- The sessions that were opened since the last shutdown are open. -/
  isOpen : ∀ i session, s.book.sessions[i]? = some session → s.stopped.sessions.length ≤ i →
    session.isOpen = true
  /-- If there are any the service runs. -/
  initialised : s.stopped.sessions.length < s.book.sessions.length → s.table.initialised = true

namespace Serves

theorem start : Serves {} where
  stopped_le := Nat.le_refl _
  isOpen := nofun
  initialised := nofun

/-- After a shutdown there are no sessions that were opened since. -/
theorem shutDown {sessions : List Session} (h : sessions.length = s.book.sessions.length) :
    Serves ⟨s.table.shutDown, { s.book with sessions := sessions }, s.book⟩ where
  stopped_le := Nat.le_of_eq h.symm
  isOpen i session hsession hle := by
    have hlt : i < sessions.length := (List.getElem?_eq_some_iff.1 hsession).1
    rw [h] at hlt
    exact absurd hlt (Nat.not_lt_of_le hle)
  initialised hlt := absurd h.symm (Nat.ne_of_lt hlt)

/-- What keeps the sessions and does not stop the service keeps the invariant. -/
theorem of_sessions_eq {b' : LeaseBook} (h : s.Serves) (hsessions : b'.sessions = s.book.sessions)
    (ht : s.table.initialised = true → t'.initialised = true) : Serves ⟨t', b', s.stopped⟩ := by
  constructor
  · rw [hsessions]
    exact h.stopped_le
  · rw [hsessions]
    exact h.isOpen
  · rw [hsessions]
    intro hlt
    exact ht (h.initialised hlt)

theorem openSession (h : s.Serves) :
    Serves ⟨s.table.initialise, { s.book with sessions := s.book.sessions ++ [{}] }, s.stopped⟩ where
  stopped_le := Nat.le_trans h.stopped_le (List.prefix_append _ _).length_le
  isOpen i session hsession hle := by
    rw [List.getElem?_append] at hsession
    split at hsession
    · exact h.isOpen i session hsession hle
    · rw [List.getElem?_singleton] at hsession
      split at hsession
      · cases hsession
        rfl
      · cases hsession
  initialised _ := rfl

/-- Closing a session once more changes nothing. -/
theorem closeSession (h : s.Serves) (hsession : s.book.sessions[i]? = some session)
    (hclosed : session.isOpen = false) :
    Serves ⟨s.table, { s.book with sessions := s.book.sessions.set i { session with isOpen := false } },
      s.stopped⟩ := by
  have hsame : { session with isOpen := false } = session := by rw [← hclosed]
  rw [hsame, set_eq_self hsession]
  exact h

theorem bookStep {b' : LeaseBook} (h : s.Serves) (hstep : BookStep s.table s.book r t' b')
    (hopen : s.book.shutsDown r = false) : Serves ⟨t', b', s.stopped⟩ := by
  cases hstep with
  | nothing => exact h
  | opened => exact h.openSession
  | closed hsession =>
    have hclosed := LeaseBook.isOpen_of_not_shutsDown hsession hopen
    rw [hclosed, if_neg Bool.false_ne_true]
    exact h.closeSession hsession hclosed
  | leased hlends =>
    obtain ⟨-, rfl, material, rfl⟩ := hlends
    exact h.of_sessions_eq rfl id
  | adopted => exact h.of_sessions_eq rfl id
  | released hl =>
    refine h.of_sessions_eq rfl fun ht => ?_
    split
    · exact ht
    · exact ht

theorem step {e : PlacedEvent} (he : e.event ≠ .call .shutDown) (h : s.Serves) :
    (s.step e).Serves := by
  obtain ⟨event, w⟩ := e
  cases event with
  | call c =>
    refine h.of_sessions_eq rfl fun ht => ?_
    rcases PlacedCall.outcome ⟨c, w⟩ s.table with ⟨-, -, hnext⟩ | ⟨-, heffect, -⟩
    · rw [hnext]
      exact ht
    · have hc : c ≠ .shutDown := fun hc => he (congrArg TenancyEvent.call hc)
      exact heffect.initialised_eq_true (SoftwareCall.kind_ne_shutDown hc) ht
  | request r =>
    rcases s.step_request r w with ⟨sessions, hlength, hstep⟩ | ⟨t', b', hopen, hbook, hstep⟩
    · rw [hstep]
      exact shutDown hlength
    · rw [hstep]
      exact h.bookStep hbook hopen

end Serves

end Tenancy

/-- **What a session can rely on.** Whatever happens, a direct shutdown apart, the sessions that were
opened since a session last shut the service down are open, and with them the service runs. A session
that is open shuts the service down when it is closed, whether others are open or not, and clears
every slot; one that has been closed already changes nothing. -/
theorem session_serves_until_one_is_closed (past : List PlacedEvent)
    (hpast : ∀ e ∈ past, e.event ≠ .call .shutDown) :
    let s := Tenancy.after {} past
    (∀ (i : Nat) (session : Session), s.book.sessions[i]? = some session →
        s.stopped.sessions.length ≤ i → session.isOpen = true ∧ s.table.initialised = true)
      ∧ ∀ (i : Nat) (session : Session) (w : World), s.book.sessions[i]? = some session →
        let s' := s.step ⟨.request (.closeSession i), w⟩
        s'.book.sessions = s.book.sessions.set i { isOpen := false }
          ∧ s'.table = if session.isOpen then s.table.shutDown else s.table := by
  intro s
  have h : s.Serves := Tenancy.after_of_step Tenancy.Serves.step hpast .start
  refine ⟨?_, ?_⟩
  · intro i session hsession hle
    have hlt : i < s.book.sessions.length := (List.getElem?_eq_some_iff.1 hsession).1
    exact ⟨h.isOpen i session hsession hle, h.initialised (Nat.lt_of_le_of_lt hle hlt)⟩
  · intro i session w hsession s'
    have hhandled : s.handled (.closeSession i) w = _ := LeaseBook.handle_closeSession hsession
    refine ⟨?_, ?_⟩
    · change (s.handled (.closeSession i) w).1.1.2.sessions = _
      rw [hhandled]
    · change (s.handled (.closeSession i) w).1.2 = _
      rw [hhandled]

/-- In a single session the service runs. -/
theorem session_serves_until_one_is_closed_sample :
    let past : List PlacedEvent := [⟨.request .openSession, .bare⟩,
      ⟨.call (.generateContentKey 32), .bare⟩]
    (∀ e ∈ past, e.event ≠ .call .shutDown) ∧ (Tenancy.after {} past).table.initialised = true := by
  intro past
  have hpast : ∀ e ∈ past, e.event ≠ .call .shutDown :=
    List.forall_mem_cons.2 ⟨nofun, List.forall_mem_singleton.2 nofun⟩
  refine ⟨hpast, ?_⟩
  exact ((session_serves_until_one_is_closed past hpast).1 0 {} rfl (Nat.le_refl 0)).2

/-- Two sessions are open and a slot is leased. The first session is closed: the second is open still
and the lease has not ended, but the service does not run any more, the slot is gone, and no new one
can be had. -/
theorem closing_a_session_stops_another :
    let s := Tenancy.after {} [⟨.request .openSession, .bare⟩, ⟨.request .openSession, .bare⟩,
      ⟨.request (.generateContentKey 32), .bare⟩]
    let s' := s.step ⟨.request (.closeSession 0), .bare⟩
    s.table.material? ⟨1⟩ ≠ none
      ∧ s'.book.sessions = [{ isOpen := false }, { isOpen := true }]
      ∧ s'.book.leases = [⟨⟨1⟩, .content, false⟩]
      ∧ s'.table.initialised = false
      ∧ s'.table.material? ⟨1⟩ = none
      ∧ (s'.handled (.generateContentKey 32) .bare).1.1.1
        = .refused (.failed .slotManagement .notInitialised) :=
  ⟨nofun, rfl, rfl, rfl, rfl, rfl⟩

end ModelProtection
