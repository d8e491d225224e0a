/-
A keystore that is saved is loaded again as it was.

Saving writes three texts, and loading checks far more than three texts: the
certificate among them must be signed by the key that it names, and that must be
the key of the seed. So not every keystore that can be saved can be loaded. One
whose certificate holds in that sense can (`Sound`), whatever characters stand in
it, and nothing else can.

A loaded keystore is sound because it was loaded. A generated one has the right
certificate by the way in which it was made; that its signature is accepted is
assumed of the signature scheme, for the seed and the body in question
(`Ed25519.Verifies`).
-/
import ModelProtection.Keystore.Store
import ModelProtection.Proofs.Crypto.Identities
import ModelProtection.Proofs.Host.Files

set_option autoImplicit false

namespace ModelProtection

variable {seed : Octets 32} {message : Bytes} {name : String} {days : Int} {now : Instant}

/-! ## Certificates that are issued -/

/-- The public key of a seed is one that can be read, and it verifies what is signed with the seed. -/
def Ed25519.Verifies (seed : Octets 32) (message : Bytes) : Prop :=
  ∃ key, VerifyingKey.ofBytes? (publicKey seed) = some key ∧ key.verify message (sign seed message) = true

instance (seed : Octets 32) (message : Bytes) : Decidable (Ed25519.Verifies seed message) :=
  decidable_of_iff ((Ed25519.VerifyingKey.ofBytes? (Ed25519.publicKey seed)).any
    fun key => key.verify message (Ed25519.sign seed message)) (Option.any_eq_true _ _)

namespace Certificate

variable {c : Certificate}

theorem checkSignature_of_verifies (hbinds : c.binds (Ed25519.publicKey seed) = true)
    (hsigned : c.signature = Ed25519.sign seed c.body.signedBytes)
    (h : Ed25519.Verifies seed c.body.signedBytes) : c.checkSignature = .ok () := by
  obtain ⟨key, hfound, hverify⟩ := h
  have hkey := key_of_binds hbinds hfound
  rw [← hsigned] at hverify
  simp only [checkSignature, hkey, bind, Except.bind, hverify, if_true]
  rfl

end Certificate

namespace Keystore

variable {k : Keystore} {path : Path} {w w' : World} {l : Location}

/-! ## Keystores that can be loaded -/

/-- The certificate of a keystore can be read, is signed by the key that it names, and names the key of
the keystore. -/
def Sound (k : Keystore) : Prop :=
  ∃ c, Certificate.parse k.certificate = .ok c ∧ c.checkSignature = .ok ()
    ∧ c.binds (Ed25519.publicKey k.seed) = true

/-- A keystore is loaded from its own file if and only if it is sound. -/
theorem load_toBytes_iff (k : Keystore) (path : Path) :
    load path (.ok k.toBytes) = .ok k ↔ k.Sound := by
  constructor
  · exact of_load
  · rintro ⟨c, hparse, hsigned, hbinds⟩
    exact load_toBytes hparse hsigned hbinds path

/-! ## Keystores on a world -/

theorem saveAt_ok {tree : FileTree} (h : w.files.write path k.toBytes = .ok tree) :
    (k.saveAt path : StateM World _) w = (.ok (), w.withFiles tree) := by
  change (Except.mapError _ (w.writeFile path k.toBytes).1, (w.writeFile path k.toBytes).2) = _
  rw [World.writeFile, h]
  rfl

/-- A keystore that is not written changes nothing. -/
theorem saveAt_error {e : FileError} (h : w.files.write path k.toBytes = .error e) :
    (k.saveAt path : StateM World _) w = (.error (.fileOpen path e), w) := by
  change (Except.mapError _ (w.writeFile path k.toBytes).1, (w.writeFile path k.toBytes).2) = _
  rw [World.writeFile, h]
  rfl

theorem loadAt_eq (path : Path) (w : World) :
    (loadAt path : StateM World _) w
      = ((load path (w.files.read path)).mapError .ofKeystore, w) := rfl

theorem Sound.loadAt_eq (h : k.Sound) (hread : w.files.read path = .ok k.toBytes) :
    (loadAt path : StateM World _) w = (.ok k, w) := by
  rw [Keystore.loadAt_eq, hread, (load_toBytes_iff k path).2 h]
  rfl

/-- Generating a keystore takes the next random bytes for the seed and the present time for the start. -/
theorem generate_eq (name : String) (days : Int) (w : World) :
    (generate name days : StateM World _) w
      = ((ofSeed (w.nextRandom 32) name days w.present).mapError .ofIssue,
        (w.afterDraw 32).afterTick) := rfl

/-- A keystore can be saved wherever a file can be written, and it is loaded from there as it was. -/
def Survives (k : Keystore) : Prop :=
  ∀ (w : World) (path : Path) (l : Location), w.files.writable path = .ok l →
    ∃ w', (k.saveAt path : StateM World _) w = (.ok (), w')
      ∧ (loadAt path : StateM World _) w' = (.ok k, w')

theorem writable_bare : World.bare.files.writable (.ofString "k") = .ok [textBytes "k"] := rfl

/-! ## Where keystores come from -/

theorem sound_of_loadAt (h : (loadAt path : StateM World _) w = (.ok k, w')) : k.Sound := by
  rw [loadAt_eq] at h
  exact of_load (mapError_eq_ok_iff.1 (congrArg Prod.fst h))

/-- Keystores survive if and only if they are sound: whatever comes out of a file is. -/
theorem survives_iff (k : Keystore) : k.Survives ↔ k.Sound := by
  constructor
  · intro h
    -- one world with a place for a file is enough: what was loaded there is sound
    obtain ⟨_, -, hload⟩ := h World.bare (.ofString "k") [textBytes "k"] writable_bare
    exact sound_of_loadAt hload
  · intro h w path l hplace
    have hwrite := FileTree.write_of_writable hplace k.toBytes
    exact ⟨_, saveAt_ok hwrite, h.loadAt_eq (FileTree.read_write hwrite)⟩

theorem ofSeed_eq_ok_iff :
    ofSeed seed name days now = .ok k
      ↔ ∃ c, Certificate.issue seed name days now = .ok c ∧ k = ⟨name, seed, c.write⟩ := by
  unfold ofSeed
  cases Certificate.issue seed name days now with
  | error e =>
    constructor
    · intro h
      cases h
    · rintro ⟨_, h, -⟩
      cases h
  | ok c =>
    constructor
    · intro h
      cases h
      exact ⟨c, rfl, rfl⟩
    · rintro ⟨_, h, rfl⟩
      cases h
      rfl

/-- A keystore that is made for a seed has a certificate for it, and is sound if that is accepted. -/
theorem of_ofSeed (h : ofSeed seed name days now = .ok k) :
    k.name = name ∧ k.seed = seed ∧ ∃ c, Certificate.issue seed name days now = .ok c
      ∧ Certificate.parse k.certificate = .ok c
      ∧ (Ed25519.Verifies seed c.body.signedBytes → k.Sound) := by
  obtain ⟨c, hissue, rfl⟩ := ofSeed_eq_ok_iff.1 h
  have hparse := Certificate.parse_write c
  refine ⟨rfl, rfl, c, hissue, hparse, ?_⟩
  intro hverifies
  -- the certificate was signed with the seed whose public key it names
  obtain ⟨notAfter, -, -, rfl⟩ := Certificate.issue_eq_ok_iff.1 hissue
  have hbinds := Certificate.binds_issueBetween seed name now notAfter
  exact ⟨_, hparse, Certificate.checkSignature_of_verifies hbinds rfl hverifies, hbinds⟩

/-! ## A sample -/

/-- The start of the second day of 1970. -/
def secondDay : Instant := ⟨86400, 0, Instant.epoch.nanos_lt, by decide, by decide, by decide⟩

/-- A certificate for the key of the zero seed, valid for a day. -/
def dayCertificate : Certificate := .issueBetween (.ofListPadded 32 []) "isv" .epoch secondDay

/-- The keystore that is generated on the bare world for a day. -/
def generatedSample : Keystore := ⟨"isv", .ofListPadded 32 [], dayCertificate.write⟩

theorem ofSeed_sample :
    ofSeed (World.bare.nextRandom 32) "isv" 1 World.bare.present = .ok generatedSample := by
  have hseed : World.bare.nextRandom 32 = .ofListPadded 32 [] := by decide
  have hadd : Instant.epoch.addDays? 1 = some secondDay := by decide
  have hissue : Certificate.issue (.ofListPadded 32 []) "isv" 1 .epoch = .ok dayCertificate :=
    Certificate.issue_eq_ok_iff.2 ⟨secondDay, Int.one_pos, hadd, rfl⟩
  rw [hseed]
  exact ofSeed_eq_ok_iff.2 ⟨dayCertificate, hissue, rfl⟩

theorem verifies_sample : Ed25519.Verifies (.ofListPadded 32 []) dayCertificate.body.signedBytes := by
  decide +kernel

end Keystore

/-- **Keystores survive saving.** A keystore that is generated, for any name, any validity that is
accepted and any random bytes, has the name that was given and the bytes that were drawn; provided that
its own signature is accepted, it can be saved at every path that can be written, and what is loaded
from there is the keystore, in its name, its seed and the text of its certificate. A keystore that was
loaded from any file, in whatever form its entries stood there, survives like that without a proviso:
loading it, saving it and loading it again gives what the first loading gave. -/
theorem keystore_survives_saving :
    (∀ (name : String) (days : Int) (w : World) (k : Keystore) (w' : World),
        (Keystore.generate name days : StateM World _) w = (.ok k, w') →
        k.name = name ∧ k.seed = w.nextRandom 32
          ∧ ∃ c, Certificate.parse k.certificate = .ok c
            ∧ (Ed25519.Verifies k.seed c.body.signedBytes → k.Survives))
    ∧ ∀ (path : Path) (w : World) (k : Keystore) (w' : World),
        (Keystore.loadAt path : StateM World _) w = (.ok k, w') → k.Survives := by
  constructor
  · intro name days w k w' hgenerate
    rw [Keystore.generate_eq] at hgenerate
    have hmade := mapError_eq_ok_iff.1 (congrArg Prod.fst hgenerate)
    obtain ⟨hname, hseed, c, -, hparse, hsound⟩ := Keystore.of_ofSeed hmade
    refine ⟨hname, hseed, c, hparse, ?_⟩
    intro hverifies
    rw [hseed] at hverifies
    exact (Keystore.survives_iff k).2 (hsound hverifies)
  · intro path w k w' hload
    exact (Keystore.survives_iff k).2 (Keystore.sound_of_loadAt hload)

/-- A keystore that is generated for a day is saved and loaded, and so is one that was loaded. -/
theorem keystore_survives_saving_sample :
    let k := Keystore.generatedSample
    let w : World :=
      { World.bare with files := ⟨[([textBytes "k"], .file Keystore.sample.toBytes)], []⟩ }
    (Keystore.generate "isv" 1 : StateM World _) World.bare
        = (.ok k, (World.bare.afterDraw 32).afterTick)
      ∧ (Keystore.loadAt (.ofString "k") : StateM World _) w = (.ok Keystore.sample, w)
      ∧ k.Survives ∧ Keystore.sample.Survives := by
  intro k w
  have hgenerate := Keystore.generate_eq "isv" 1 World.bare
  rw [Keystore.ofSeed_sample] at hgenerate
  have hload : (Keystore.loadAt (.ofString "k") : StateM World _) w = (.ok Keystore.sample, w) :=
    congrArg (fun r => (Except.mapError CryptoError.ofKeystore r, w)) (Keystore.load_sample _)
  obtain ⟨hgenerated, hloaded⟩ := keystore_survives_saving
  obtain ⟨-, -, c, hparse, hsurvives⟩ := hgenerated _ _ _ _ _ hgenerate
  cases hparse.symm.trans (Certificate.parse_write _)
  exact ⟨hgenerate, hload, hsurvives Keystore.verifies_sample, hloaded _ _ _ _ hload⟩

end ModelProtection
