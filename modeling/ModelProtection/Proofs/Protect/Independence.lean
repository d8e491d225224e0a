/-
What a service has been used for before plays no part.

Two services that are given the same request go through the workflow in step:
each step finds the same keys under leases of its own, gives the same answer and
leaves the same world, however the slots are numbered and whatever else is in the
tables (`Agree`). Computations agree piece by piece. A step that has nothing to do
with the table agrees with itself on any two tables (`Agree.apart`), a call of the
service agrees because both tables hold the same keys (`SameKeys`), and what
agrees in its pieces agrees as a whole.

The one thing that a table could betray is how full it is. Protecting a model takes
three slots at a time, so with 61 live slots or fewer there is always room.
-/
import ModelProtection.Proofs.Protect.Outputs

set_option autoImplicit false

namespace ModelProtection

variable {ε α β : Type} {t t' u u' : SlotTable} {w : World}

/-! ## Two runs -/

/-- What comes of two computations: an error that is the same for both, or values and tables that are
related. -/
inductive SameResult (related : α → SlotTable → α → SlotTable → Prop) :
    Except ε α → SlotTable → Except ε α → SlotTable → Prop where
  | error (e : ε) (t u : SlotTable) : SameResult related (.error e) t (.error e) u
  | ok {a b : α} {t u : SlotTable} (h : related a t b u) : SameResult related (.ok a) t (.ok b) u

namespace SameResult

variable {related related' : α → SlotTable → α → SlotTable → Prop} {first second : Except ε α}

/-- Tables may change behind the results, as long as the values are related on the new ones. -/
theorem move (h : SameResult related first t second u)
    (hrelated : ∀ a b, related a t b u → related' a t' b u') :
    SameResult related' first t' second u' := by
  cases h with
  | error e => exact .error e t' u'
  | ok h => exact .ok (hrelated _ _ h)

theorem mapError {ε' : Type} (h : SameResult related first t second u) (f : ε → ε') :
    SameResult related (first.mapError f) t (second.mapError f) u := by
  cases h with
  | error e => exact .error (f e) t u
  | ok h => exact .ok h

end SameResult

/-- Two computations, each on a table of its own, leave the same world and come to the same, in every
world. -/
def Agree (x y : ExceptT ε OnWorld α) (t u : SlotTable)
    (related : α → SlotTable → α → SlotTable → Prop) : Prop :=
  ∀ w, ∃ first t' second u' w', Runs x t w first t' w' ∧ Runs y u w second u' w'
    ∧ SameResult related first t' second u'

/-- The same value, and tables that are still the ones that were given. -/
def Untouched (t u : SlotTable) (a : α) (t' : SlotTable) (b : α) (u' : SlotTable) : Prop :=
  a = b ∧ t' = t ∧ u' = u

/-- The same value, whatever has become of the tables. -/
def SameValue (a : α) (_ : SlotTable) (b : α) (_ : SlotTable) : Prop := a = b

/-- A computation does not look at the table and leaves it as it is. -/
def Apart (x : ExceptT ε OnWorld α) : Prop :=
  ∀ t u w, ∃ result w', Runs x t w result t w' ∧ Runs x u w result u w'

namespace Apart

theorem check (fault : ε → ParameterFault) (value : Except ε α) :
    Apart (WorkflowT.check fault value) :=
  fun _ _ _ => ⟨_, _, rfl, rfl⟩

theorem compute (value : Except ProtectError α) : Apart (WorkflowT.compute value) :=
  fun _ _ _ => ⟨_, _, rfl, rfl⟩

theorem readInput (p : Path) : Apart (WorkflowT.readInput p) :=
  fun _ _ _ => ⟨_, _, rfl, rfl⟩

theorem writeOutput (p : Path) (content : Bytes) : Apart (WorkflowT.writeOutput p content) :=
  fun _ _ _ => ⟨_, _, rfl, rfl⟩

theorem now : Apart (ExceptT.lift Host.now : ExceptT ε OnWorld Instant) :=
  fun _ _ _ => ⟨_, _, rfl, rfl⟩

theorem generateGuid : Apart (WorkflowT.call CryptoService.generateGuid) :=
  fun _ _ _ => ⟨_, _, rfl, rfl⟩

theorem hash (bytes : Bytes) : Apart (WorkflowT.call (CryptoService.hash bytes)) :=
  fun _ _ _ => ⟨_, _, rfl, rfl⟩

theorem stage {x : WorkflowT OnWorld α} (h : Apart x) (stage : Stage) : Apart (stage.run x) := by
  intro t u w
  obtain ⟨result, w', hx, hy⟩ := h t u w
  exact ⟨_, _, Runs.stage hx, Runs.stage hy⟩

end Apart

namespace Agree

variable {related : α → SlotTable → α → SlotTable → Prop} {x y : ExceptT ε OnWorld α}

theorem pure {a b : α} (h : related a t b u) :
    Agree (Pure.pure a : ExceptT ε OnWorld α) (Pure.pure b) t u related :=
  fun _ => ⟨_, _, _, _, _, rfl, rfl, .ok h⟩

theorem throw (e : ε) :
    Agree (MonadExcept.throw e : ExceptT ε OnWorld α) (MonadExcept.throw e) t u related :=
  fun _ => ⟨_, _, _, _, _, rfl, rfl, .error e t u⟩

theorem apart (h : Apart x) : Agree x x t u (Untouched t u) := by
  intro w
  obtain ⟨result, w', hx, hy⟩ := h t u w
  refine ⟨_, _, _, _, _, hx, hy, ?_⟩
  cases result with
  | error e => exact .error e t u
  | ok a => exact .ok ⟨rfl, rfl, rfl⟩

theorem mono {related' : α → SlotTable → α → SlotTable → Prop} (h : Agree x y t u related)
    (hrelated : ∀ a t' b u', related a t' b u' → related' a t' b u') : Agree x y t u related' := by
  intro w
  obtain ⟨first, t', second, u', w', hx, hy, hsame⟩ := h w
  exact ⟨_, _, _, _, _, hx, hy, hsame.move fun a b => hrelated a t' b u'⟩

theorem bind {related' : β → SlotTable → β → SlotTable → Prop} {f g : α → ExceptT ε OnWorld β}
    (hx : Agree x y t u related)
    (hf : ∀ a t' b u', related a t' b u' → Agree (f a) (g b) t' u' related') :
    Agree (x >>= f) (y >>= g) t u related' := by
  intro w
  obtain ⟨first, t₁, second, u₁, w₁, hx, hy, hsame⟩ := hx w
  cases hsame with
  | error e => exact ⟨_, _, _, _, _, Runs.run_bind hx, Runs.run_bind hy, .error e t₁ u₁⟩
  | ok h =>
    obtain ⟨_, _, _, _, w', hfirst, hsecond, hsame⟩ := hf _ _ _ _ h w₁
    exact ⟨_, _, _, _, w', (Runs.run_bind hx).trans hfirst, (Runs.run_bind hy).trans hsecond, hsame⟩

/-- A step that has nothing to do with the table, and then the rest. -/
theorem apart_bind {related' : β → SlotTable → β → SlotTable → Prop} {f g : α → ExceptT ε OnWorld β}
    (hx : Apart x) (hf : ∀ a, Agree (f a) (g a) t u related') :
    Agree (x >>= f) (x >>= g) t u related' :=
  (apart hx).bind fun a _ _ _ h => by
    obtain ⟨rfl, rfl, rfl⟩ := h
    exact hf a

theorem stage {stage : Stage} {related : α → SlotTable → α → SlotTable → Prop}
    {x y : WorkflowT OnWorld α} (h : Agree x y t u related) :
    Agree (stage.run x) (stage.run y) t u related := by
  intro w
  obtain ⟨first, t', second, u', w', hx, hy, hsame⟩ := h w
  exact ⟨_, _, _, _, _, Runs.stage hx, Runs.stage hy, hsame.mapError _⟩

/-- Leases that have not ended are ended after their bodies. -/
theorem during {related' : α → SlotTable → α → SlotTable → Prop} {l m : KeyLease}
    (hl : l.released = false) (hm : m.released = false) (h : Agree x y t u related)
    (hcleared : ∀ a t' b u', related a t' b u' → related' a (t'.clear l.slot) b (u'.clear m.slot)) :
    Agree (l.during x) (m.during y) t u related' := by
  obtain ⟨slot, role, released⟩ := l
  obtain ⟨slot', role', released'⟩ := m
  cases hl
  cases hm
  intro w
  obtain ⟨first, t', second, u', w', hx, hy, hsame⟩ := h w
  refine ⟨first, t'.clear slot, second, u'.clear slot', w', ?_, ?_,
    hsame.move fun a b => hcleared a t' b u'⟩
  · rw [Runs, KeyLease.during]
    exact (OnWorld.bind_eq hx).trans rfl
  · rw [Runs, KeyLease.during]
    exact (OnWorld.bind_eq hy).trans rfl

theorem during_value {l m : KeyLease} (hl : l.released = false) (hm : m.released = false)
    (h : Agree x y t u SameValue) : Agree (l.during x) (m.during y) t u SameValue :=
  h.during hl hm fun _ _ _ _ hsame => hsame

/-- Leases are kept if their bodies succeed. -/
theorem releaseOnError {l m : KeyLease} (hl : l.released = false) (hm : m.released = false)
    (h : Agree x y t u related) : Agree (l.releaseOnError x) (m.releaseOnError y) t u related := by
  intro w
  obtain ⟨first, t', second, u', w', hx, hy, hsame⟩ := h w
  cases hsame with
  | error e =>
    exact ⟨_, _, _, _, _, Runs.releaseOnError_error hl hx, Runs.releaseOnError_error hm hy,
      .error e _ _⟩
  | ok h => exact ⟨_, _, _, _, _, Runs.releaseOnError_ok hx, Runs.releaseOnError_ok hy, .ok h⟩

/-- Sessions that are open are closed after their bodies. -/
theorem session {s : Session} (hs : s.isOpen = true) (h : Agree x y t u SameValue) :
    Agree (s.during x) (s.during y) t u SameValue := by
  obtain ⟨isOpen⟩ := s
  cases hs
  intro w
  obtain ⟨first, t', second, u', w', hx, hy, hsame⟩ := h w
  refine ⟨first, t'.shutDown, second, u'.shutDown, w', ?_, ?_, hsame.move fun _ _ h => h⟩
  · rw [Runs, Session.during]
    exact (OnWorld.bind_eq hx).trans rfl
  · rw [Runs, Session.during]
    exact (OnWorld.bind_eq hy).trans rfl

end Agree

/-! ## Tables with the same keys -/

variable {k : Keystore} {key : Octets 32}

/-- Two slots of a table. -/
structure SlotPair where
  /-- The slot of the identity. -/
  identity : SlotId
  /-- The slot of the content key. -/
  content : SlotId

/-- Two tables with room hold the same identity and the same content key, each in slots of its own. -/
structure SameKeys (k : Keystore) (key : Octets 32) (p q : SlotPair) (t u : SlotTable) : Prop where
  left : Leased t k key False p.identity p.content
  right : Leased u k key False q.identity q.content

/-- The same value, and tables that hold the same keys. -/
def KeepsKeys (k : Keystore) (key : Octets 32) (p q : SlotPair) (a : α) (t : SlotTable) (b : α)
    (u : SlotTable) : Prop :=
  a = b ∧ SameKeys k key p q t u

/-- The same text, and the same derived keys in the slot that was filled last, under a lease. -/
def SameDerived (t u : SlotTable) (a : String × KeyLease) (t' : SlotTable) (b : String × KeyLease)
    (u' : SlotTable) : Prop :=
  a.1 = b.1 ∧ a.2 = ⟨t.next, .derived, false⟩ ∧ b.2 = ⟨u.next, .derived, false⟩
    ∧ ∃ keys, t' = t.fill (.derived keys) ∧ u' = u.fill (.derived keys)

namespace SameKeys

variable {p q : SlotPair} (h : SameKeys k key p q t u)
include h

/-- Slots that were filled and cleared leave the same keys. -/
theorem clear_fill (material : KeyMaterial) :
    SameKeys k key p q ((t.fill material).clear t.next) ((u.fill material).clear u.next) where
  left := h.left.clear_fill not_false material
  right := h.right.clear_fill not_false material

/-! ### Calls of the service -/

theorem certificate :
    Agree (WorkflowT.call (CryptoService.certificate p.identity))
      (WorkflowT.call (CryptoService.certificate q.identity)) t u
      fun a t' b u' => a = k.certificate ∧ Untouched t u a t' b u' :=
  fun _ => ⟨_, _, _, _, _, h.left.certificate, h.right.certificate, .ok ⟨rfl, rfl, rfl, rfl⟩⟩

theorem verifyCertificate :
    Agree (WorkflowT.call (CryptoService.verifyCertificate p.identity false k.certificate true))
      (WorkflowT.call (CryptoService.verifyCertificate q.identity false k.certificate true)) t u
      (Untouched t u) := by
  intro w
  rcases hvouch : SlotTable.vouch k.certificate (some w.present) with e | c
  · exact ⟨_, _, _, _, _, h.left.verifyCertificate_error hvouch,
      h.right.verifyCertificate_error hvouch, .error _ t u⟩
  rcases hbinds : c.binds (Ed25519.publicKey k.seed)
  · exact ⟨_, _, _, _, _, h.left.verifyCertificate_foreign hvouch hbinds,
      h.right.verifyCertificate_foreign hvouch hbinds, .error _ t u⟩
  · exact ⟨_, _, _, _, _, h.left.verifyCertificate_ok ⟨c, hvouch, hbinds⟩,
      h.right.verifyCertificate_ok ⟨c, hvouch, hbinds⟩, .ok ⟨rfl, rfl, rfl⟩⟩

theorem sign (document : Bytes) :
    Agree (WorkflowT.call (CryptoService.sign p.identity document))
      (WorkflowT.call (CryptoService.sign q.identity document)) t u (Untouched t u) := by
  intro w
  rcases hsign : (Envelope.signed k.seed document).encode with e | signed
  · exact ⟨_, _, _, _, _, h.left.sign_error hsign, h.right.sign_error hsign, .error _ t u⟩
  · exact ⟨_, _, _, _, _, h.left.sign_ok hsign, h.right.sign_ok hsign, .ok ⟨rfl, rfl, rfl⟩⟩

theorem encrypt (message : Bytes) :
    Agree (WorkflowT.call (KeyLease.encrypt ⟨p.content, .content, false⟩ message))
      (WorkflowT.call (KeyLease.encrypt ⟨q.content, .content, false⟩ message)) t u
      (SameDerived t u) := by
  intro w
  rcases hencrypt : (DerivedKeys.expand key (w.nextRandom DerivedKeys.saltSize) .content).encrypt
    message with e | body
  · exact ⟨_, _, _, _, _, h.left.leasedContent.encrypt_error not_false hencrypt,
      h.right.leasedContent.encrypt_error not_false hencrypt, .error _ t u⟩
  · exact ⟨_, _, _, _, _, h.left.leasedContent.encrypt_ok not_false hencrypt,
      h.right.leasedContent.encrypt_ok not_false hencrypt, .ok ⟨rfl, rfl, rfl, _, rfl, rfl⟩⟩

theorem wrapKey :
    Agree (WorkflowT.call (KeyLease.wrapKey ⟨p.identity, .identity, false⟩ ⟨p.content, .content, false⟩))
      (WorkflowT.call (KeyLease.wrapKey ⟨q.identity, .identity, false⟩ ⟨q.content, .content, false⟩))
      t u (SameDerived t u) := by
  intro w
  obtain ⟨body, hbody, hleft⟩ := h.left.wrapKey_ok (w := w) not_false
  obtain ⟨body', hbody', hright⟩ := h.right.wrapKey_ok (w := w) not_false
  cases hbody.symm.trans hbody'
  exact ⟨_, _, _, _, _, hleft, hright, .ok ⟨rfl, rfl, rfl, _, rfl, rfl⟩⟩

end SameKeys

/-- Sealing a license under keys that both tables derived. -/
theorem Agree.authenticate (keys : DerivedKeys) (document : Bytes) :
    Agree (WorkflowT.call (CryptoService.authenticate t.next document))
      (WorkflowT.call (CryptoService.authenticate u.next document)) (t.fill (.derived keys))
      (u.fill (.derived keys)) (Untouched (t.fill (.derived keys)) (u.fill (.derived keys))) := by
  intro w
  rcases hcode : (Envelope.authenticated keys document).encode with e | authenticated
  · exact ⟨_, _, _, _, _, authenticate_error hcode, authenticate_error hcode, .error _ _ _⟩
  · exact ⟨_, _, _, _, _, authenticate_ok hcode, authenticate_ok hcode, .ok ⟨rfl, rfl, rfl⟩⟩

/-- A call that derives keys, followed by the span of their lease. -/
theorem Agree.derivation {related : β → SlotTable → β → SlotTable → Prop}
    {x y : WorkflowT OnWorld (String × KeyLease)} {f g : String × KeyLease → WorkflowT OnWorld β}
    {body body' : String → KeyLease → WorkflowT OnWorld β} (hx : Agree x y t u (SameDerived t u))
    (hf : ∀ text l, f (text, l) = l.during (body text l))
    (hg : ∀ text l, g (text, l) = l.during (body' text l))
    (hbody : ∀ text keys, Agree (body text ⟨t.next, .derived, false⟩)
      (body' text ⟨u.next, .derived, false⟩) (t.fill (.derived keys)) (u.fill (.derived keys))
      fun a t' b u' => related a (t'.clear t.next) b (u'.clear u.next)) :
    Agree (x >>= f) (y >>= g) t u related := by
  refine hx.bind ?_
  rintro ⟨text, l⟩ _ ⟨_, m⟩ _ ⟨rfl, rfl, rfl, keys, rfl, rfl⟩
  rw [hf, hg]
  exact (hbody text keys).during rfl rfl fun _ _ _ _ h => h

/-! ## The parts of the workflow -/

section Parts

variable {p q : SlotPair}

theorem encryptFile_agrees (h : SameKeys k key p q t u) (policy : TrailingByte) (total : Nat)
    (file : InputFile) :
    Agree (encryptFile ⟨p.content, .content, false⟩ policy total file)
      (encryptFile ⟨q.content, .content, false⟩ policy total file) t u (KeepsKeys k key p q) := by
  rw [encryptFile, encryptFile]
  refine Agree.apart_bind (.readInput file.path) fun bytes => ?_
  refine (h.encrypt (policy.plaintext bytes)).derivation (fun _ _ => rfl) (fun _ _ => rfl) ?_
  intro ciphertext keys
  -- whatever is made of the length, the keys go afterwards
  cases Size.add? total (byteLength ciphertext) with
  | none => exact .throw _
  | some total => exact .pure ⟨rfl, h.clear_fill _⟩

theorem encryptFrom_agrees (h : SameKeys k key p q t u) (policy : TrailingByte) (total : Nat)
    (files : List InputFile) :
    Agree (encryptFrom ⟨p.content, .content, false⟩ policy total files)
      (encryptFrom ⟨q.content, .content, false⟩ policy total files) t u (KeepsKeys k key p q) := by
  -- each file leaves other tables, and in them the same keys in the same slots
  induction files generalizing t u total with
  | nil => exact .pure ⟨rfl, h⟩
  | cons file files ih =>
    rw [encryptFrom, encryptFrom]
    refine (encryptFile_agrees h policy total file).bind ?_
    rintro ⟨artifact, total⟩ t₁ _ u₁ ⟨rfl, h₁⟩
    refine (ih h₁ total).bind ?_
    rintro rest t₂ _ u₂ ⟨rfl, h₂⟩
    exact .pure ⟨rfl, h₂⟩

/-- Asking leases that have not ended for their slots gives each its own. -/
theorem Agree.leaseId {slot slot' : SlotId} {role : KeyRole} :
    Agree (WorkflowT.call (Pure.pure (KeyLease.id ⟨slot, role, false⟩) : OnWorld _))
      (WorkflowT.call (Pure.pure (KeyLease.id ⟨slot', role, false⟩) : OnWorld _)) t u
      fun a t' b u' => a = slot ∧ b = slot' ∧ t' = t ∧ u' = u :=
  fun _ => ⟨_, _, _, _, _, rfl, rfl, .ok ⟨rfl, rfl, rfl, rfl⟩⟩

theorem modelBuild_agrees (h : SameKeys k key p q t u) (b : ModelBuild) (files : List InputFile)
    (metadata : Metadata) :
    Agree (b.run ⟨p.identity, .identity, false⟩ ⟨p.content, .content, false⟩ files metadata)
      (b.run ⟨q.identity, .identity, false⟩ ⟨q.content, .content, false⟩ files metadata) t u
      (KeepsKeys k key p q) := by
  rw [ModelBuild.run, ModelBuild.run]
  refine Agree.apart_bind (.check _ _) fun _ => ?_
  refine Agree.leaseId.bind ?_
  rintro _ _ _ _ ⟨rfl, rfl, rfl, rfl⟩
  refine h.certificate.bind ?_
  rintro _ _ _ _ ⟨rfl, rfl, rfl, rfl⟩
  refine h.verifyCertificate.bind ?_
  rintro _ _ _ _ ⟨rfl, rfl, rfl⟩
  -- only the files move the tables; what follows works on the ones they leave
  refine (encryptFrom_agrees h b.trailingByte 0 files).bind ?_
  rintro encrypted t₁ _ u₁ ⟨rfl, h₁⟩
  refine Agree.apart_bind .generateGuid fun guid => ?_
  refine Agree.apart_bind (.compute _) fun capacity => ?_
  refine Agree.apart_bind (.compute _) fun bytes => ?_
  refine Agree.apart_bind (.hash bytes) fun hash => ?_
  refine (h₁.sign bytes).bind ?_
  rintro signed _ _ _ ⟨rfl, rfl, rfl⟩
  refine Agree.apart_bind (.writeOutput b.output signed) fun _ => ?_
  exact .pure ⟨rfl, h₁⟩

theorem authenticated_agrees (h : SameKeys k key p q t u) (licenseGuid : String)
    (context : ProtectionContext) :
    Agree (LicenseBuild.authenticated ⟨p.identity, .identity, false⟩ ⟨p.content, .content, false⟩
        licenseGuid context Host.now)
      (LicenseBuild.authenticated ⟨q.identity, .identity, false⟩ ⟨q.content, .content, false⟩
        licenseGuid context Host.now) t u SameValue := by
  rw [LicenseBuild.authenticated, LicenseBuild.authenticated]
  refine Agree.apart_bind (.check _ _) fun _ => ?_
  refine Agree.apart_bind (.compute _) fun _ => ?_
  refine h.wrapKey.derivation (fun _ _ => rfl) (fun _ _ => rfl) ?_
  intro wrappedKey keys
  refine Agree.apart_bind .now fun created => ?_
  refine Agree.apart_bind (.compute _) fun bytes => ?_
  refine Agree.leaseId.bind ?_
  rintro _ _ _ _ ⟨rfl, rfl, rfl, rfl⟩
  exact (Agree.authenticate keys bytes).mono fun _ _ _ _ hsame => hsame.1

theorem licenseBuild_agrees (h : SameKeys k key p q t u) (output : Path) (licenseGuid : String)
    (context : ProtectionContext) :
    Agree (LicenseBuild.run output ⟨p.identity, .identity, false⟩ ⟨p.content, .content, false⟩
        licenseGuid context)
      (LicenseBuild.run output ⟨q.identity, .identity, false⟩ ⟨q.content, .content, false⟩
        licenseGuid context) t u SameValue := by
  rw [LicenseBuild.run, LicenseBuild.run, LicenseBuild.runWith, LicenseBuild.runWith]
  refine ((authenticated_agrees h licenseGuid context).during_value rfl rfl).bind ?_
  rintro bytes t₁ _ u₁ rfl
  exact Agree.apart_bind (.writeOutput output bytes) fun _ => .pure rfl

end Parts

/-! ## The whole workflow -/

/-- A service that has been started, with the three slots that protecting a model takes. -/
structure SlotTable.Ready (t : SlotTable) : Prop where
  initialised : t.initialised = true
  room : t.liveCount + 3 ≤ mostLive

section Ready

variable (ht : t.Ready) (hu : u.Ready)
include ht hu

theorem loadIdentity_agrees (keystore : Path) :
    Agree (WorkflowT.call (KeyLease.loadIdentity keystore))
      (WorkflowT.call (KeyLease.loadIdentity keystore)) t u
      fun a t' b u' => a = ⟨t.next, .identity, false⟩ ∧ b = ⟨u.next, .identity, false⟩
        ∧ ∃ k : Keystore, t' = t.fill (.identity k.seed k.certificate)
          ∧ u' = u.fill (.identity k.seed k.certificate) := by
  intro w
  have hroom : ¬ SlotTable.mostLive < t.liveCount + 1 := by have := ht.room; omega
  have hroom' : ¬ SlotTable.mostLive < u.liveCount + 1 := by have := hu.room; omega
  rcases hload : Keystore.load keystore (w.files.read keystore) with e | k
  · exact ⟨_, _, _, _, _, loadIdentity_error ht.initialised hroom hload,
      loadIdentity_error hu.initialised hroom' hload, .error _ t u⟩
  · exact ⟨_, _, _, _, _, loadIdentity_ok ht.initialised hroom hload,
      loadIdentity_ok hu.initialised hroom' hload, .ok ⟨rfl, rfl, k, rfl, rfl⟩⟩

/-- The content key is the same, since it is drawn from the world. -/
theorem generateContentKey_agrees (k : Keystore) :
    let identified := t.fill (.identity k.seed k.certificate)
    let identified' := u.fill (.identity k.seed k.certificate)
    Agree (WorkflowT.call (KeyLease.generateContentKey contentKeySize))
      (WorkflowT.call (KeyLease.generateContentKey contentKeySize)) identified identified'
      fun a t' b u' => a = ⟨identified.next, .content, false⟩ ∧ b = ⟨identified'.next, .content, false⟩
        ∧ ∃ key, SameKeys k key ⟨t.next, identified.next⟩ ⟨u.next, identified'.next⟩ t' u' := by
  intro identified identified' w
  -- the third slot is for derived keys, and is filled and cleared in turn
  have hroom : ¬ SlotTable.mostLive < t.liveCount + 3 := Nat.not_lt.2 ht.room
  have hroom' : ¬ SlotTable.mostLive < u.liveCount + 3 := Nat.not_lt.2 hu.room
  have hleft := leased_fill_fill ht.initialised k (w.nextRandom 32)
  have hright := leased_fill_fill hu.initialised k (w.nextRandom 32)
  rw [eq_false hroom] at hleft
  rw [eq_false hroom'] at hright
  refine ⟨_, _, _, _, _, generateContentKey_ok ht.initialised ?_,
    generateContentKey_ok hu.initialised ?_, .ok ⟨rfl, rfl, _, hleft, hright⟩⟩
  · rw [SlotTable.liveCount_fill]
    omega
  · rw [SlotTable.liveCount_fill]
    omega

/-- Both documents under an identity that both tables hold. -/
theorem protectUnder_agrees (r : ProtectRequest) (licenseGuid : Guid) (k : Keystore) :
    Agree (protectUnder r licenseGuid ⟨t.next, .identity, false⟩)
      (protectUnder r licenseGuid ⟨u.next, .identity, false⟩)
      (t.fill (.identity k.seed k.certificate)) (u.fill (.identity k.seed k.certificate))
      SameValue := by
  rw [protectUnder, protectUnder]
  refine (generateContentKey_agrees ht hu k).stage.bind ?_
  rintro _ t₁ _ u₁ ⟨rfl, rfl, key, h₁⟩
  have hmodel := modelBuild_agrees h₁ ⟨r.protectedModelPath, r.trailingByte⟩
    (InputFile.ofPaths r.inputs) r.metadata
  refine (hmodel.stage.releaseOnError rfl rfl).bind ?_
  rintro ⟨context, signed⟩ t₂ _ u₂ ⟨rfl, h₂⟩
  refine (licenseBuild_agrees h₂ r.masterLicensePath r.licenseGuid context).stage.bind ?_
  rintro authenticated t₃ _ u₃ rfl
  exact Agree.apart_bind ((Apart.compute context.require).stage _) fun _ => .pure rfl

end Ready

theorem protect_agrees (r : ProtectRequest) (ht : t.liveCount ≤ 61) (hu : u.liveCount ≤ 61) :
    Agree (ExceptT.mk (protect r)) (ExceptT.mk (protect r)) t u SameValue := by
  have hready : t.initialise.Ready := ⟨rfl, Nat.add_le_add_right ht 3⟩
  have hready' : u.initialise.Ready := ⟨rfl, Nat.add_le_add_right hu 3⟩
  rw [protect]
  refine Agree.apart_bind ((Apart.compute r.validate).stage _) fun _ => ?_
  refine Agree.apart_bind ((Apart.check _ _).stage _) fun licenseGuid => ?_
  have hstart : Agree (WorkflowT.call Session.start) (WorkflowT.call Session.start) t u
      fun a t' b u' => a = Session.mk true ∧ b = Session.mk true ∧ t' = t.initialise ∧ u' = u.initialise :=
    fun _ => ⟨_, _, _, _, _, rfl, rfl, .ok ⟨rfl, rfl, rfl, rfl⟩⟩
  refine hstart.stage.bind ?_
  rintro _ _ _ _ ⟨rfl, rfl, rfl, rfl⟩
  refine Agree.session rfl ((loadIdentity_agrees hready hready' r.keystore).stage.bind ?_)
  rintro _ _ _ _ ⟨rfl, rfl, k, rfl, rfl⟩
  exact (protectUnder_agrees hready hready' r licenseGuid k).during_value rfl rfl

/-- **Protecting a model does not depend on what the service was used for before.** For every request
and every world, a service in any state with at most 61 live slots gives what a new one gives, an
outcome or an error with its stage, and leaves the same world: the same files, as many random bytes
drawn and the clock read as often. Nothing is asked of the state but that; the service may have been
started or not, may hold any keys in any slots, and may have filled any number of slots before. -/
theorem protect_independent_of_history (r : ProtectRequest) (t : SlotTable) (w : World)
    (hlive : t.liveCount ≤ 61) :
    ∃ result t' u' w',
      (protect r : OnWorld (Except StageError ProtectOutcome)) t w = ((result, t'), w')
      ∧ (protect r : OnWorld (Except StageError ProtectOutcome)) {} w = ((result, u'), w') := by
  obtain ⟨first, t', second, u', w', hrun, hrun', hsame⟩ :=
    protect_agrees (u := {}) r hlive (Nat.zero_le 61) w
  cases hsame with
  | error e => exact ⟨.error e, t', u', w', hrun, hrun'⟩
  | ok h =>
    cases h
    exact ⟨_, t', u', w', hrun, hrun'⟩

/-- The sample run succeeds on a service with a content key in its seventh slot as on a new one. -/
theorem protect_independent_of_history_sample :
    let t : SlotTable := ⟨true, 7, [(⟨7⟩, .content (.ofListPadded 32 []))]⟩
    t.liveCount ≤ 61 ∧ ∃ outcome t' u' w',
      (protect sampleRequest : OnWorld (Except StageError ProtectOutcome)) t sampleWorld
        = ((.ok outcome, t'), w')
      ∧ (protect sampleRequest : OnWorld (Except StageError ProtectOutcome)) {} sampleWorld
        = ((.ok outcome, u'), w') := by
  intro t
  have hlive : t.liveCount ≤ 61 := by decide
  obtain ⟨outcome, _, _, hnew, -⟩ := protect_sample_ok
  obtain ⟨result, t', u', w', hrun, hrun'⟩ :=
    protect_independent_of_history sampleRequest t sampleWorld hlive
  cases hnew.symm.trans hrun'
  exact ⟨hlive, _, _, _, _, hrun, hrun'⟩

end ModelProtection
