/-
What a loaded keystore promises.

Loading checks everything about a certificate that does not depend on the time.
So when the certificate is checked again later, only its lifetime can be wrong
(`vouch_of_parse`), and it is the certificate of the key of the keystore.
-/
import ModelProtection.Crypto.SlotTable
import ModelProtection.Proofs.Certificate.Lifetime
import ModelProtection.Proofs.Json.Plain

set_option autoImplicit false

namespace ModelProtection

/-! ## Checks of a certificate -/

namespace Certificate

variable {c : Certificate}

/-- A certificate that passes its own check names a key, and the key verifies its signature. -/
theorem of_checkSignature (h : c.checkSignature = .ok ()) :
    ∃ key, c.key = .ok key ∧ key.verify c.body.signedBytes c.signature = true := by
  obtain ⟨key, hkey, h⟩ := eq_ok_of_bind h
  by_cases hverify : key.verify c.body.signedBytes c.signature = true
  · exact ⟨key, hkey, hverify⟩
  · rw [if_neg hverify] at h
    cases h

end Certificate

namespace SlotTable

variable {certificate : String} {c : Certificate}

/-- A certificate that is signed by the key it names is good for any time that is not asked about. -/
theorem vouch_none (hparse : Certificate.parse certificate = .ok c)
    (hsigned : c.checkSignature = .ok ()) : vouch certificate none = .ok c := by
  simp only [vouch, hparse, hsigned, bind, Except.bind]
  rfl

/-- At an instant it is good or not by its lifetime. -/
theorem vouch_some (hparse : Certificate.parse certificate = .ok c)
    (hsigned : c.checkSignature = .ok ()) (now : Instant) :
    vouch certificate (some now)
      = (match c.checkLifetime now with
        | .error e => .error (.ofCertificate e)
        | .ok () => .ok c) := by
  simp only [vouch, hparse, hsigned, bind, Except.bind]
  cases c.checkLifetime now <;> rfl

end SlotTable

/-! ## What is loaded -/

namespace Keystore

variable {k : Keystore} {path : Path} {content : Except FileError Bytes}

/-- Entries that go together are those of the only algorithm, with the digits of a seed and a
certificate that can be read, is signed by the key that it names, and names the key of the seed. -/
theorem of_ofEntries {e : Entries} (h : ofEntries e = .ok k) :
    k.certificate = e.certificate
      ∧ (e.algorithm = algorithm ∧ Hex.decodeSized 32 (textBytes e.seed) = .ok k.seed)
      ∧ ∃ c, Certificate.parse k.certificate = .ok c ∧ c.checkSignature = .ok ()
        ∧ c.binds (Ed25519.publicKey k.seed) = true := by
  simp only [ofEntries, bind, Except.bind] at h
  -- the checks in their order: algorithm, seed, certificate, its signature, its key
  split at h
  · cases h
  rename_i halgorithm
  split at h
  · cases h
  rename_i seed hseed
  split at h
  · cases h
  rename_i c hparse
  split at h
  · cases h
  rename_i hsigned
  split at h
  · rename_i hbinds
    cases h
    exact ⟨rfl, ⟨Decidable.not_not.1 halgorithm, mapError_eq_ok_iff.1 hseed⟩, c, mapError_eq_ok_iff.1 hparse,
      mapError_eq_ok_iff.1 hsigned, hbinds⟩
  · cases h

/-- What is loaded are the entries in a file. -/
theorem exists_entries_of_load (h : load path content = .ok k) :
    ∃ bytes e, content = .ok bytes ∧ Json.readAll record.read bytes = .ok e
      ∧ ofEntries e = .ok k := by
  rw [load] at h
  obtain ⟨bytes, hbytes, h⟩ := eq_ok_of_bind h
  obtain ⟨e, he, h⟩ := eq_ok_of_bind h
  exact ⟨bytes, e, mapError_eq_ok_iff.1 hbytes, mapError_eq_ok_iff.1 he, h⟩

/-- The certificate of a keystore that was loaded can be read, is signed by the key that it names, and
names the key of the keystore. -/
theorem of_load (h : load path content = .ok k) :
    ∃ c, Certificate.parse k.certificate = .ok c ∧ c.checkSignature = .ok ()
      ∧ c.binds (Ed25519.publicKey k.seed) = true := by
  obtain ⟨bytes, e, -, -, hentries⟩ := exists_entries_of_load h
  exact (of_ofEntries hentries).2.2

/-- A certificate that was checked when its keystore was loaded is checked again by its lifetime
alone. -/
theorem vouch_of_parse {c : Certificate} (h : load path content = .ok k)
    (hparse : Certificate.parse k.certificate = .ok c) (now : Instant) :
    SlotTable.vouch k.certificate (some now)
      = (match c.checkLifetime now with
        | .error e => .error (.ofCertificate e)
        | .ok () => .ok c) := by
  obtain ⟨c', hparse', hsigned, -⟩ := of_load h
  rw [hparse] at hparse'
  cases hparse'
  exact SlotTable.vouch_some hparse hsigned now

theorem certificate_length_ne_zero (h : load path content = .ok k) : byteLength k.certificate ≠ 0 := by
  intro hzero
  -- an empty text is no certificate, and a loaded keystore has one that could be read
  obtain ⟨c, hparse, -, -⟩ := of_load h
  have hnil : k.certificate.toList = [] := by
    cases hchars : k.certificate.toList with
    | nil => rfl
    | cons c l =>
      have hlength : (textBytes k.certificate).length = 0 := hzero
      rw [textBytes, hchars, Utf8.encode_cons, List.length_append] at hlength
      have := String.length_utf8EncodeChar c
      have := c.utf8Size_pos
      omega
  simp only [Certificate.parse, hnil] at hparse
  cases hparse

/-! ## What is written is loaded -/

open Json in
theorem record_read (k : Keystore) (rest : Bytes) :
    record.read (Utf8.encode k.toJson.pretty ++ rest)
      = .ok (⟨k.name, algorithm, Hex.encode k.seed.toList, k.certificate⟩, rest) :=
  Record.read_pieces 0
    (.cons rfl rfl (fun rest => Field.read_of (readTextAs_pieces _ k.name 1 rest))
      (.cons rfl rfl (fun rest => Field.read_of (readTextAs_pieces _ algorithm 1 rest))
        (.cons rfl rfl (fun rest => Field.read_of (readTextAs_pieces _ _ 1 rest))
          (.cons rfl rfl (fun rest => Field.read_of (readTextAs_pieces _ k.certificate 1 rest))
            (.nil _)))))
    rfl rest

/-- Loading the file of a keystore decides whether its entries go together. -/
theorem load_toBytes_eq (k : Keystore) (path : Path) :
    load path (.ok k.toBytes)
      = ofEntries ⟨k.name, algorithm, Hex.encode k.seed.toList, k.certificate⟩ := by
  have hread := record_read k []
  rw [List.append_nil] at hread
  have hall : Json.readAll record.read k.toBytes
      = .ok ⟨k.name, algorithm, Hex.encode k.seed.toList, k.certificate⟩ := by
    simp only [Json.readAll, toBytes, hread, bind, Except.bind]
    rfl
  simp only [load, hall, mapError_ok, bind, Except.bind]

/-- A keystore whose certificate holds and is its own is loaded from its file. -/
theorem load_toBytes {k : Keystore} {c : Certificate} (hparse : Certificate.parse k.certificate = .ok c)
    (hsigned : c.checkSignature = .ok ()) (hbinds : c.binds (Ed25519.publicKey k.seed) = true)
    (path : Path) : load path (.ok k.toBytes) = .ok k := by
  rw [load_toBytes_eq]
  simp only [ofEntries, Hex.decodeSized_encode, hparse, hsigned, hbinds, mapError_ok,
    bind, Except.bind, pure, Except.pure, ne_eq, not_true_eq_false, if_false, if_true]

/-- What is loaded from the file of a keystore has the certificate of that keystore. -/
theorem certificate_of_load_toBytes {k' : Keystore} (h : load path (.ok k.toBytes) = .ok k') :
    k'.certificate = k.certificate := by
  rw [load_toBytes_eq] at h
  exact (of_ofEntries h).1

/-- A certificate for the key of the zero seed, valid at the start of 1970. -/
def sampleCertificate : Certificate := .issueBetween (.ofListPadded 32 []) "isv" .epoch .epoch

/-- A keystore with that certificate. -/
def sample : Keystore := ⟨"isv", .ofListPadded 32 [], sampleCertificate.write⟩

/-- The sample is small, whatever its signature. -/
theorem byteLength_sample_le : byteLength sample.certificate ≤ 10000 := by
  have hsubject : Json.escapedLength sampleCertificate.body.subject = 3 := by decide
  have hkey : Json.escapedLength sampleCertificate.body.publicKey = 64 := by
    rw [sampleCertificate, Certificate.publicKey_issueBetween, escapedLength_hex, Octets.length_toList]
  have hsignature : Json.escapedLength (Hex.encode sampleCertificate.signature.toList) = 128 := by
    rw [escapedLength_hex, Octets.length_toList]
  have htime : Json.escapedLength Instant.epoch.timestamp ≤ 50 := by
    rw [Json.escapedLength, Instant.timestamp, String.toList_ofList]
    decide
  have hbefore : sampleCertificate.body.notBefore = .epoch := rfl
  have hafter : sampleCertificate.body.notAfter = .epoch := rfl
  have hcompact := Certificate.length_compact_toJson sampleCertificate
  rw [hbefore, hafter] at hcompact
  have hwrite := Certificate.length_textBytes_write_le sampleCertificate
  change (textBytes sampleCertificate.write).length ≤ _
  omega

theorem parse_sample : Certificate.parse sample.certificate = .ok sampleCertificate :=
  Certificate.parse_write sampleCertificate

theorem checkSignature_sample : sampleCertificate.checkSignature = .ok () :=
  eq_ok_of_isOk (by decide +kernel)

/-- There is a keystore that is loaded. -/
theorem load_sample (path : Path) : load path (.ok sample.toBytes) = .ok sample :=
  load_toBytes parse_sample checkSignature_sample (beq_self_eq_true _) path

end Keystore

end ModelProtection
