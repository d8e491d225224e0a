/-
Certificates in capital letters.

A certificate is refused for the case of its digits. It may be signed by the key
that it names, and that may be the key it is held against: if one of its digits is
a capital letter, then no keystore with it is loaded and no slot accepts it as its
own (`load_iff_binds`, `verifyCertificate_iff_binds`). The other way round nothing
is lost, since what is accepted names the key that signed it.
-/
import ModelProtection.Proofs.Crypto.Identities

set_option autoImplicit false

namespace ModelProtection

variable {c : Certificate} {key : Ed25519.VerifyingKey}

/-- A keystore with a certificate that holds is loaded if and only if that is bound to its key. -/
theorem Keystore.load_iff_binds {k : Keystore} (hparse : Certificate.parse k.certificate = .ok c)
    (hsigned : c.checkSignature = .ok ()) (path : Path) :
    load path (.ok k.toBytes) = .ok k ↔ c.binds (Ed25519.publicKey k.seed) = true := by
  constructor
  · intro hload
    obtain ⟨c', hparse', -, hbinds⟩ := of_load hload
    rw [hparse] at hparse'
    cases hparse'
    exact hbinds
  · intro hbinds
    exact load_toBytes hparse hsigned hbinds path

/-- A slot accepts a certificate that holds as its own if and only if that is bound to its key. -/
theorem SlotTable.verifyCertificate_iff_binds {t : SlotTable} {slot : SlotId} {seed : Octets 32}
    {own text : String} (hslot : t.material? slot = some (.identity seed own))
    (hparse : Certificate.parse text = .ok c) (hsigned : c.checkSignature = .ok ()) :
    verifyCertificate slot false text none t = .ok ((), t)
      ↔ c.binds (Ed25519.publicKey seed) = true := by
  rw [verifyCertificate_eq hslot, vouch_none hparse hsigned]
  dsimp only
  constructor
  · intro haccepted
    by_cases hbinds : c.binds (Ed25519.publicKey seed) = true
    · exact hbinds
    · rw [if_neg hbinds] at haccepted
      cases haccepted
  · intro hbinds
    rw [if_pos hbinds]

/-- **The two readings of a certificate's key.** A certificate names a key if and only if it spells its
bytes in digits of either case, and it is bound to the key if and only if it names it and writes it
without capital letters. So one that is signed by the key it names, held against that very key, is good
for a keystore, and is accepted by an identity slot as its own, if and only if it has no capital
letters. -/
theorem certificate_key_readings (c : Certificate) (key : Ed25519.VerifyingKey)
    (hvalid : Ed25519.VerifyingKey.ofBytes? key.bytes = some key) :
    (c.key = .ok key ↔ Hex.Spells c.body.publicKey.toList key.bytes.toList)
    ∧ (c.binds key.bytes = true ↔ c.key = .ok key ∧ c.KeyInLowerCase)
    ∧ ∀ (text : String), Certificate.parse text = .ok c → c.checkSignature = .ok () →
      (∀ (k : Keystore) (path : Path), k.certificate = text → Ed25519.publicKey k.seed = key.bytes →
        (Keystore.load path (.ok k.toBytes) = .ok k ↔ c.key = .ok key ∧ c.KeyInLowerCase))
      ∧ ∀ (t : SlotTable) (slot : SlotId) (seed : Octets 32) (own : String),
        t.material? slot = some (.identity seed own) → Ed25519.publicKey seed = key.bytes →
        (SlotTable.verifyCertificate slot false text none t = .ok ((), t)
          ↔ c.key = .ok key ∧ c.KeyInLowerCase) := by
  have hreadings := Certificate.binds_iff (c := c) hvalid
  refine ⟨Certificate.key_iff_spells hvalid, hreadings, ?_⟩
  intro text hparse hsigned
  constructor
  · rintro k path rfl hown
    rw [Keystore.load_iff_binds hparse hsigned, hown]
    exact hreadings
  · intro t slot seed own hslot hown
    rw [SlotTable.verifyCertificate_iff_binds hslot hparse hsigned, hown]
    exact hreadings

/-- The certificate of the sample keystore names its key in lower case, so the keystore is loaded and
the slot of the key accepts the certificate. -/
theorem certificate_key_readings_sample :
    let k := Keystore.sample
    let c := Keystore.sampleCertificate
    let t := SlotTable.fill {} (.identity k.seed k.certificate)
    ∃ key, Ed25519.VerifyingKey.ofBytes? key.bytes = some key ∧ c.key = .ok key
      ∧ c.binds key.bytes = true ∧ c.KeyInLowerCase
      ∧ Keystore.load (.ofString "k") (.ok k.toBytes) = .ok k
      ∧ SlotTable.verifyCertificate (SlotTable.next {}) false k.certificate none t = .ok ((), t) := by
  intro k c t
  have hslot : t.material? (SlotTable.next {}) = some (.identity k.seed k.certificate) :=
    SlotTable.material?_fill_next {} _
  obtain ⟨key, hkey, -⟩ := Certificate.of_checkSignature Keystore.checkSignature_sample
  have hbinds : c.binds (Ed25519.publicKey k.seed) = true :=
    Certificate.binds_issueBetween k.seed "isv" .epoch .epoch
  have hfound := Certificate.ofBytes?_of_binds hkey hbinds
  have hbytes : key.bytes = Ed25519.publicKey k.seed :=
    Ed25519.VerifyingKey.bytes_of_ofBytes? hfound
  rw [← hbytes] at hfound hbinds
  obtain ⟨-, hreadings, hheld⟩ := certificate_key_readings c key hfound
  obtain ⟨hload, haccept⟩ := hheld k.certificate Keystore.parse_sample Keystore.checkSignature_sample
  have hnamed := hreadings.1 hbinds
  exact ⟨key, hfound, hkey, hbinds, hnamed.2, (hload k _ rfl hbytes.symm).2 hnamed,
    (haccept t _ k.seed k.certificate hslot hbytes.symm).2 hnamed⟩

/-- The sample certificate with its key in capital letters, signed with the seed of that key. -/
def Keystore.capitalCertificate : Certificate :=
  let body := { sampleCertificate.body with
    publicKey := "3B6A27BCCEB6A42D62A3A8D02A6F0D73653215771DE243A63AC048A18B59DA29" }
  ⟨body, Ed25519.sign (.ofListPadded 32 []) body.signedBytes⟩

/-- It can be read, it is signed by the key that it names, which is the key of the seed, and it is not
bound to that key. -/
theorem capital_certificate_not_bound :
    let c := Keystore.capitalCertificate
    Certificate.parse c.write = .ok c ∧ c.checkSignature = .ok ()
      ∧ ∃ key, Ed25519.VerifyingKey.ofBytes? key.bytes = some key
        ∧ key.bytes = Ed25519.publicKey (.ofListPadded 32 [])
        ∧ c.key = .ok key ∧ c.binds key.bytes = false := by
  intro c
  have hsigned : c.checkSignature = .ok () := eq_ok_of_isOk (by decide +kernel)
  obtain ⟨key, hkey, -⟩ := Certificate.of_checkSignature hsigned
  obtain ⟨octets, hspells, hfound⟩ := Certificate.key_eq_ok_iff.1 hkey
  have hbytes : key.bytes = octets := Ed25519.VerifyingKey.bytes_of_ofBytes? hfound
  have hlower : c.body.publicKey.toList.map Char.toLower
      = Hex.encodeChars (Ed25519.publicKey (.ofListPadded 32 [])).toList := by decide +kernel
  have hown : octets = Ed25519.publicKey (.ofListPadded 32 []) :=
    Octets.ext_toList (Hex.encodeChars_injective (hspells.lower_eq.symm.trans hlower))
  have hcapitals : ¬ c.KeyInLowerCase := by
    rw [Certificate.KeyInLowerCase]
    decide
  refine ⟨Certificate.parse_write c, hsigned, key, hbytes ▸ hfound, hbytes.trans hown, hkey, ?_⟩
  refine Bool.eq_false_iff.2 fun hbinds => ?_
  exact hcapitals (Certificate.binds_iff_spells.1 hbinds).2

end ModelProtection
