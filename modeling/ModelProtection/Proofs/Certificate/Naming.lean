/-
How a certificate names its key.

The digits in which a certificate names its key are looked at twice: they are read,
to have the key under which its signature is checked, and they are compared with the
digits of a key that is at hand. Reading takes digits of either case
(`key_eq_ok_iff`), the comparison those in lower case alone (`binds_iff_spells`). So
a certificate that is bound to a key names it (`binds_iff`), and the converse holds
of the certificates that write their key without capitals.
-/
import ModelProtection.Certificate
import ModelProtection.Proofs.Text.Hex

set_option autoImplicit false

namespace ModelProtection

/-- A key keeps the bytes from which it was read. -/
theorem Ed25519.VerifyingKey.bytes_of_ofBytes? {octets : Octets 32} {key : VerifyingKey}
    (h : ofBytes? octets = some key) : key.bytes = octets := by
  obtain ⟨point, -, rfl⟩ := Option.map_eq_some_iff.1 h
  rfl

namespace Certificate

variable {c : Certificate} {key : Ed25519.VerifyingKey} {own : Octets 32}

/-- A certificate writes its key without capital letters. -/
def KeyInLowerCase (c : Certificate) : Prop :=
  c.body.publicKey.toList.map Char.toLower = c.body.publicKey.toList

/-- A certificate names the keys whose bytes it spells. -/
theorem key_eq_ok_iff : c.key = .ok key ↔ ∃ octets : Octets 32,
    Hex.Spells c.body.publicKey.toList octets.toList
      ∧ Ed25519.VerifyingKey.ofBytes? octets = some key := by
  unfold Certificate.key
  -- how the point of a key is found plays no part, and must not be looked into
  obtain ⟨find, hfind⟩ : ∃ find, find = Ed25519.VerifyingKey.ofBytes? := ⟨_, rfl⟩
  rw [← hfind]
  constructor
  · intro h
    obtain ⟨bytes, hbytes, h⟩ := eq_ok_of_bind h
    have hspells := Hex.decode_eq_ok_iff.1 (mapError_eq_ok_iff.1 hbytes)
    split at h
    · rename_i octets hoctets
      split at h
      · rename_i key' hfound
        cases h
        rw [← Octets.ofList?_eq_some_iff.1 hoctets] at hspells
        exact ⟨octets, hspells, hfound⟩
      · cases h
    · cases h
  · rintro ⟨octets, hspells, hfound⟩
    simp only [Hex.decode_eq_ok_iff.2 hspells, mapError_ok, Octets.ofList?_toList, hfound, bind,
      Except.bind]
    rfl

/-- The key that a certificate names is found from its own bytes, and the certificate spells them. -/
theorem key_iff_spells (hvalid : Ed25519.VerifyingKey.ofBytes? key.bytes = some key) :
    c.key = .ok key ↔ Hex.Spells c.body.publicKey.toList key.bytes.toList := by
  constructor
  · intro h
    obtain ⟨octets, hspells, hfound⟩ := key_eq_ok_iff.1 h
    rwa [Ed25519.VerifyingKey.bytes_of_ofBytes? hfound]
  · intro h
    exact key_eq_ok_iff.2 ⟨key.bytes, h, hvalid⟩

/-- A certificate is bound to the bytes that it spells in lower case. -/
theorem binds_iff_spells :
    c.binds own = true ↔ Hex.Spells c.body.publicKey.toList own.toList ∧ c.KeyInLowerCase :=
  beq_iff_eq.trans Hex.eq_encode_iff

/-- A certificate is bound to a key if and only if it names it in lower case. -/
theorem binds_iff (hvalid : Ed25519.VerifyingKey.ofBytes? key.bytes = some key) :
    c.binds key.bytes = true ↔ c.key = .ok key ∧ c.KeyInLowerCase := by
  rw [key_iff_spells hvalid]
  exact binds_iff_spells

/-- A certificate that is bound to a key names that key. -/
theorem key_of_binds (hbinds : c.binds own = true)
    (hfound : Ed25519.VerifyingKey.ofBytes? own = some key) : c.key = .ok key :=
  key_eq_ok_iff.2 ⟨own, (binds_iff_spells.1 hbinds).1, hfound⟩

/-- The key that a certificate names is the one to which it is bound. -/
theorem ofBytes?_of_binds (hkey : c.key = .ok key) (hbinds : c.binds own = true) :
    Ed25519.VerifyingKey.ofBytes? own = some key := by
  obtain ⟨octets, hspells, hfound⟩ := key_eq_ok_iff.1 hkey
  have hown := (binds_iff_spells.1 hbinds).1
  have heq : octets = own :=
    Octets.ext_toList (Hex.encodeChars_injective (hspells.lower_eq.symm.trans hown.lower_eq))
  rwa [← heq]

theorem binds_issueBetween (seed : Octets 32) (subject : String) (notBefore notAfter : Instant) :
    (issueBetween seed subject notBefore notAfter).binds (Ed25519.publicKey seed) = true :=
  beq_self_eq_true _

end Certificate

end ModelProtection
