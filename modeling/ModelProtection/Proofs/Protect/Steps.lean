/-
Running the workflow.

The workflow is written for any host and any service. Here it runs on a world
with the service in software, and then it is a function from a table and a world
to a result, a table and a world. `Runs` names the graph of that function.

There is one lemma for each step, which says what the step does on given data,
and there are lemmas for the ways in which steps are put together. Those are read
backwards: a run of a whole whose first step is known leaves a run of the rest
(`Runs.bind_ok`) or is over (`Runs.bind_error`), so that a run of any length is
taken apart from the front. Where it is to be shown that something runs to a
certain end, the same is read forwards (`Runs.bind_of_ok`).
-/
import ModelProtection.Crypto.Software
import ModelProtection.Proofs.Crypto.Slots
import ModelProtection.Protect.Run

set_option autoImplicit false

namespace ModelProtection

/-- The service in software on a world. -/
abbrev OnWorld := SoftwareT (StateM World)

variable {ε α β : Type} {t t' t₁ : SlotTable} {w w' w₁ : World}

/-! ## Worlds -/

namespace World

/-- The world after `n` random bytes have been drawn. -/
def afterDraw (w : World) (n : Nat) : World := { w with drawn := w.drawn + n }

/-- The world after the clock has been read. -/
def afterTick (w : World) : World := { w with clockReads := w.clockReads + 1 }

/-- The world with other files. -/
def withFiles (w : World) (files : FileTree) : World := { w with files }

/-- The time that the clock shows when it is read. -/
def present (w : World) : Instant := w.clock w.clockReads

@[simp] theorem files_afterDraw (w : World) (n : Nat) : (w.afterDraw n).files = w.files := rfl

@[simp] theorem files_afterTick (w : World) : w.afterTick.files = w.files := rfl

end World

theorem OnWorld.bind_eq {x : OnWorld α} {f : α → OnWorld β} {a : α} (h : x t w = ((a, t₁), w₁)) :
    (x >>= f) t w = f a t₁ w₁ := by
  change f (x t w).1.1 (x t w).1.2 (x t w).2 = _
  rw [h]

theorem OnWorld.randomBytes_eq (n : Nat) :
    (Host.randomBytes n : OnWorld (Octets n)) t w = ((w.nextRandom n, t), w.afterDraw n) := rfl

theorem OnWorld.now_eq :
    (Host.now : OnWorld Instant) t w = ((w.present, t), w.afterTick) := rfl

theorem OnWorld.loadAt_eq (keystore : Path) :
    (Keystore.loadAt keystore : OnWorld (Except CryptoError Keystore)) t w
      = (((Keystore.load keystore (w.files.read keystore)).mapError .ofKeystore, t), w) := rfl

/-! ## Runs -/

/-- A computation gives a result and leaves a table and a world. -/
def Runs (x : ExceptT ε OnWorld α) (t : SlotTable) (w : World) (result : Except ε α)
    (t' : SlotTable) (w' : World) : Prop :=
  x.run t w = ((result, t'), w')

namespace Runs

/-- Whatever is run has a result. -/
theorem exists_result (x : ExceptT ε OnWorld α) (t : SlotTable) (w : World) :
    ∃ result t' w', Runs x t w result t' w' := ⟨_, _, _, rfl⟩

theorem pure {a : α} {result : Except ε α} (h : Runs (pure a) t w result t' w') :
    result = .ok a ∧ t' = t ∧ w' = w := by
  cases h
  exact ⟨rfl, rfl, rfl⟩

theorem throw {e : ε} {result : Except ε α} (h : Runs (throw e) t w result t' w') :
    result = .error e ∧ t' = t ∧ w' = w := by
  cases h
  exact ⟨rfl, rfl, rfl⟩

section Bind

variable {x : ExceptT ε OnWorld α} {f : α → ExceptT ε OnWorld β} {result : Except ε β}

theorem run_bind {first : Except ε α} (hx : Runs x t w first t₁ w₁) :
    (x >>= f).run t w
      = (match first with
          | .ok a => (f a).run
          | .error e => Pure.pure (.error e) : OnWorld (Except ε β)) t₁ w₁ := by
  change (ExceptT.bindCont f (x.run t w).1.1 : OnWorld (Except ε β)) (x.run t w).1.2 (x.run t w).2 = _
  rw [hx]
  cases first <;> rfl

/-- After a first step that succeeds comes the rest. -/
theorem bind_ok {a : α} (h : Runs (x >>= f) t w result t' w') (hx : Runs x t w (.ok a) t₁ w₁) :
    Runs (f a) t₁ w₁ result t' w' :=
  (run_bind hx).symm.trans h

/-- A first step that fails is the end. -/
theorem bind_error {e : ε} (h : Runs (x >>= f) t w result t' w')
    (hx : Runs x t w (.error e) t₁ w₁) : result = .error e ∧ t' = t₁ ∧ w' = w₁ := by
  cases (run_bind hx).symm.trans h
  exact ⟨rfl, rfl, rfl⟩

theorem bind (h : Runs (x >>= f) t w result t' w') :
    (∃ e, result = .error e ∧ Runs x t w (.error e) t' w')
      ∨ ∃ a t₁ w₁, Runs x t w (.ok a) t₁ w₁ ∧ Runs (f a) t₁ w₁ result t' w' := by
  obtain ⟨first, t₁, w₁, hx⟩ := exists_result x t w
  cases first with
  | error e =>
    obtain ⟨rfl, rfl, rfl⟩ := h.bind_error hx
    exact .inl ⟨e, rfl, hx⟩
  | ok a => exact .inr ⟨a, t₁, w₁, hx, h.bind_ok hx⟩

/-- A step that succeeds and a run of the rest make a run of the whole. -/
theorem bind_of_ok {a : α} (hx : Runs x t w (.ok a) t₁ w₁) (h : Runs (f a) t₁ w₁ result t' w') :
    Runs (x >>= f) t w result t' w' :=
  (run_bind hx).trans h

/-- A step that fails makes a run of the whole by itself. -/
theorem bind_of_error {e : ε} (hx : Runs x t w (.error e) t' w') :
    Runs (x >>= f) t w (.error e) t' w' :=
  run_bind hx

end Bind

/-! ## Steps without the service -/

theorem check_ok {fault : ε → ParameterFault} {value : Except ε α} {a : α} (h : value = .ok a) :
    Runs (WorkflowT.check fault value) t w (.ok a) t w := by
  rw [h]
  rfl

theorem check_error {fault : ε → ParameterFault} {value : Except ε α} {e : ε}
    (h : value = .error e) :
    Runs (WorkflowT.check fault value) t w (.error (.parameter (fault e))) t w := by
  rw [h]
  rfl

/-- What is computed without effects. -/
theorem compute {value result : Except ProtectError α} (h : value = result) :
    Runs (WorkflowT.compute value) t w result t w := by
  rw [h]
  rfl

theorem readInput_ok {p : Path} {content : Bytes} (h : w.files.read p = .ok content) :
    Runs (WorkflowT.readInput p) t w (.ok content) t w := by
  change (((w.files.read p).mapError _, t), w) = _
  rw [h]
  rfl

theorem readInput_error {p : Path} {e : FileError} (h : w.files.read p = .error e) :
    Runs (WorkflowT.readInput p) t w (.error (.fileOpen p e)) t w := by
  change (((w.files.read p).mapError _, t), w) = _
  rw [h]
  rfl

theorem writeOutput_ok {p : Path} {content : Bytes} {files : FileTree}
    (h : w.files.write p content = .ok files) :
    Runs (WorkflowT.writeOutput p content) t w (.ok ()) t (w.withFiles files) := by
  change (((w.writeFile p content).1.mapError _, t), (w.writeFile p content).2) = _
  rw [World.writeFile, h]
  rfl

/-- A write that does not find its place changes nothing. -/
theorem writeOutput_error {p : Path} {content : Bytes} {e : FileError}
    (h : w.files.write p content = .error e) :
    Runs (WorkflowT.writeOutput p content) t w (.error (.fileOpen p e)) t w := by
  change (((w.writeFile p content).1.mapError _, t), (w.writeFile p content).2) = _
  rw [World.writeFile, h]
  rfl

theorem now : Runs (ExceptT.lift Host.now : ExceptT ε OnWorld Instant) t w (.ok w.present) t
    w.afterTick := rfl

/-- A part of the workflow as a stage. -/
theorem stage {stage : Stage} {body : WorkflowT OnWorld α} {result : Except ProtectError α}
    (h : Runs body t w result t' w') :
    Runs (stage.run body) t w (result.mapError (⟨stage, ·⟩)) t' w' := by
  change (((body.run t w).1.1.mapError _, (body.run t w).1.2), (body.run t w).2) = _
  rw [h]

/-! ## Calls of the service -/

section Call

variable {operation : SlotM α}

/-- An operation on the table that succeeds leaves its table. -/
theorem operation_ok {a : α} (h : operation t = .ok (a, t')) :
    (Software.run operation : OnWorld (Except CryptoError α)) t w = ((.ok a, t'), w) := by
  simp only [Software.run, h]
  rfl

/-- An operation on the table that fails leaves the table as it was by then. -/
theorem operation_error {e : CryptoError} (h : operation t = .error ⟨e, t'⟩) :
    (Software.run operation : OnWorld (Except CryptoError α)) t w = ((.error e, t'), w) := by
  simp only [Software.run, h]
  rfl

/-- The identity of a keystore that can be loaded goes into the slot that is filled next. -/
theorem loadIdentity_eq {keystore : Path} {k : Keystore} (hinit : t.initialised = true)
    (hroom : ¬ SlotTable.mostLive < t.liveCount + 1)
    (hload : Keystore.load keystore (w.files.read keystore) = .ok k) :
    (Software.loadIdentity keystore : OnWorld (Except CryptoError SlotId)) t w
      = ((.ok t.next, t.fill (.identity k.seed k.certificate)), w) := by
  have hfree := operation_ok (w := w) ((SlotTable.requireFree_eq hinit 1).trans (if_neg hroom))
  have hread := OnWorld.loadAt_eq (t := t) (w := w) keystore
  rw [hload] at hread
  rw [Software.loadIdentity, OnWorld.bind_eq hfree]
  dsimp only
  rw [OnWorld.bind_eq hread]
  exact operation_ok ((SlotTable.insert_eq hinit _).trans (if_neg hroom))

theorem call {request : OnWorld (Except CryptoError α)} (reply : Except CryptoError α)
    (h : request t w = ((reply, t'), w')) :
    Runs (WorkflowT.call request) t w (reply.mapError .crypto) t' w' := by
  change (((request t w).1.1.mapError _, (request t w).1.2), (request t w).2) = _
  rw [h]

/-- A call that gives a slot, as one that gives a lease. -/
theorem leasing {role : KeyRole} {request : OnWorld (Except CryptoError SlotId)}
    (reply : Except CryptoError SlotId) (h : request t w = ((reply, t'), w')) :
    Runs (WorkflowT.call (KeyLease.ofCall role request)) t w
      ((reply.map fun slot => ⟨slot, role, false⟩).mapError .crypto) t' w' := by
  change ((((request t w).1.1.map _).mapError _, (request t w).1.2), (request t w).2) = _
  rw [h]

/-- A call that gives a text and a slot, as one that gives a text and a lease. -/
theorem derivation (request : OnWorld (Except CryptoError (String × SlotId)))
    {reply : Except CryptoError (String × SlotId)} (h : request t w = ((reply, t'), w')) :
    Runs (WorkflowT.call (KeyLease.ofDerivingCall request)) t w
      ((reply.map fun p => (p.1, ⟨p.2, .derived, false⟩)).mapError .crypto) t' w' := by
  change ((((request t w).1.1.map _).mapError _, (request t w).1.2), (request t w).2) = _
  rw [h]

end Call

/-! ## Leases -/

/-- A lease that has not ended is ended after its body. -/
theorem during {l : KeyLease} (hl : l.released = false) {body : ExceptT ε OnWorld α}
    {result : Except ε α} (h : Runs (l.during body) t w result t' w') :
    ∃ t₁, Runs body t w result t₁ w' ∧ t' = t₁.clear l.slot := by
  obtain ⟨slot, role, released⟩ := l
  cases hl
  cases h
  exact ⟨_, rfl, rfl⟩

/-- A body in the span of a lease, which clears the slot of the lease unless it has ended before. -/
theorem during_of {body : ExceptT ε OnWorld α} {result : Except ε α} (l : KeyLease)
    (h : Runs body t w result t' w') :
    Runs (l.during body) t w result (if l.released then t' else t'.clear l.slot) w' := by
  obtain ⟨slot, role, released⟩ := l
  rw [Runs, KeyLease.during]
  refine (OnWorld.bind_eq h).trans ?_
  cases released with
  | false => rfl
  | true => rfl

section ReleaseOnError

variable {l : KeyLease} {body : ExceptT ε OnWorld α}

/-- A lease is kept after a body that succeeds. -/
theorem releaseOnError_ok {a : α} (h : Runs body t w (.ok a) t' w') :
    Runs (l.releaseOnError body) t w (.ok a) t' w' := by
  rw [Runs, KeyLease.releaseOnError]
  exact (OnWorld.bind_eq h).trans rfl

/-- A lease that has not ended is ended after a body that fails. -/
theorem releaseOnError_error (hl : l.released = false) {e : ε}
    (h : Runs body t w (.error e) t' w') :
    Runs (l.releaseOnError body) t w (.error e) (t'.clear l.slot) w' := by
  obtain ⟨slot, role, released⟩ := l
  cases hl
  rw [Runs, KeyLease.releaseOnError]
  exact (OnWorld.bind_eq h).trans rfl

end ReleaseOnError

/-- A session that is open is closed after its body, whatever the body gives. -/
theorem session {s : Session} (hs : s.isOpen = true) {body : ExceptT ε OnWorld α}
    {result : Except ε α} (h : Runs (s.during body) t w result t' w') :
    ∃ t₁, Runs body t w result t₁ w' ∧ t' = t₁.shutDown := by
  obtain ⟨isOpen⟩ := s
  cases hs
  cases h
  exact ⟨_, rfl, rfl⟩

end Runs

end ModelProtection
