/-
Nothing is written without a certificate of one's own.

Three places check the certificate: loading the keystore, looking up the slot, and
checking its lifetime when the model is built. Put together they are one statement
about the bytes of the keystore file (`Keystore.Proves`). Both writes of a run come
after all three, and both documents carry the very text that was checked, since it
is handed on from the keystore to the model and from the model to the license.
-/
import ModelProtection.Proofs.Keystore
import ModelProtection.Proofs.Protect.Effects

set_option autoImplicit false

namespace ModelProtection

variable {w w' : World} {r : ProtectRequest} {live : Nat} {k : Keystore} {key : Octets 32} {full : Prop}

/-! ## Keystores -/

/-- The bytes of a keystore file prove at an instant that its certificate is its own: everything that
is checked of them, from the name of the algorithm to the lifetime of the certificate. -/
structure Keystore.Proves (bytes : Bytes) (now : Instant) (e : Entries) (seed : Octets 32)
    (c : Certificate) (key : Ed25519.VerifyingKey) : Prop where
  entries_eq : Json.readAll record.read bytes = .ok e
  algorithm_eq : e.algorithm = "ed25519"
  seed_eq : Hex.decodeSized 32 (textBytes e.seed) = .ok seed
  certificate_eq : Certificate.parse e.certificate = .ok c
  /-- The certificate is signed with the key that it names. -/
  signature : c.key = .ok key ∧ key.verify c.body.signedBytes c.signature = true
  /-- The key that it names is that of the seed. -/
  publicKey_eq : c.body.publicKey = Hex.encode (Ed25519.publicKey seed).toList
  lifetime : c.body.notBefore ≤ now ∧ now ≤ c.body.notAfter

/-- A certificate that holds at an instant is proved by the file from which it was loaded. -/
theorem Keystore.HoldsAt.proves {path : Path} {content : Except FileError Bytes} {now : Instant}
    (hload : Keystore.load path content = .ok k) (h : k.HoldsAt now) :
    ∃ bytes e c key, content = .ok bytes ∧ k.certificate = e.certificate
      ∧ Keystore.Proves bytes now e k.seed c key := by
  obtain ⟨bytes, e, hcontent, hread, hentries⟩ := Keystore.exists_entries_of_load hload
  obtain ⟨htext, ⟨halgorithm, hseed⟩, c, hparse, hsigned, hbinds⟩ := Keystore.of_ofEntries hentries
  obtain ⟨key, hkey, hverify⟩ := Certificate.of_checkSignature hsigned
  have hlifetime : c.checkLifetime now = .ok () := by
    obtain ⟨c', hvouch, -⟩ := h
    rw [Keystore.vouch_of_parse hload hparse] at hvouch
    cases hcheck : c.checkLifetime now with
    | ok _ => rfl
    | error _ =>
      rw [hcheck] at hvouch
      cases hvouch
  refine ⟨bytes, e, c, key, hcontent, htext, ?_⟩
  rw [htext] at hparse
  exact {
    entries_eq := hread
    algorithm_eq := halgorithm
    seed_eq := hseed
    certificate_eq := hparse
    signature := ⟨hkey, hverify⟩
    publicKey_eq := eq_of_beq hbinds
    lifetime := Certificate.checkLifetime_eq_ok_iff.1 hlifetime }

/-! ## Documents -/

/-- A file is a sealed object in which a text stands as the certificate of the issuer, once. -/
def CarriesCertificate (certificate : String) (bytes : Bytes) : Prop :=
  ∃ e members, Envelope.decode bytes = .ok e ∧ Json.parse e.data = .ok (.object members)
    ∧ members.filter (·.1 = "isv_certificate") = [("isv_certificate", .text certificate)]

theorem CarriesCertificate.of_members {certificate : String} {e : Envelope}
    {members : List (String × Json)} (htag : Envelope.isTag e.tag.toList = true)
    (hdata : e.data = Utf8.encode (Json.object members).pretty)
    (honce : members.filter (·.1 = "isv_certificate") = [("isv_certificate", .text certificate)]) :
    CarriesCertificate certificate e.sealedBytes := by
  refine ⟨e, members, Envelope.decode_sealedBytes htag, ?_, honce⟩
  rw [hdata]
  exact Json.parse_pretty _

theorem ModelDocument.carriesCertificate (d : ModelDocument) (seed : Octets 32) :
    CarriesCertificate d.certificate (Envelope.signed seed d.written).sealedBytes :=
  .of_members (Envelope.isTag_signed seed d.written) rfl rfl

theorem LicenseDocument.carriesCertificate (d : LicenseDocument) (keys : DerivedKeys) :
    CarriesCertificate d.certificate (Envelope.authenticated keys d.written).sealedBytes :=
  .of_members (Envelope.isTag_authenticated keys d.written) rfl rfl

/-- A model that is built carries a certificate that holds, and the license is told about it. -/
theorem BuildsModel.certified {b : ModelBuild} {files : List InputFile} {metadata : Metadata}
    {context : ProtectionContext} {signed : Bytes}
    (h : BuildsModel k key full b files metadata w (.ok (context, signed)) w') :
    k.HoldsAt w.present ∧ CarriesCertificate k.certificate signed
      ∧ context.certificate = k.certificate ∧ w.files.write b.output signed = .ok w'.files := by
  obtain ⟨d, total, w₁, hdraft, rfl, rfl, hwrite, -⟩ := h.of_ok
  refine ⟨hdraft.holds, ?_, hdraft.certificate_eq, hwrite⟩
  rw [← hdraft.certificate_eq]
  exact d.carriesCertificate k.seed

/-- A license that is built carries the certificate that it was told about. -/
theorem BuildsLicense.certified {output : Path} {licenseGuid : String} {context : ProtectionContext}
    {authenticated : Bytes}
    (h : BuildsLicense k key full output licenseGuid context w (.ok authenticated) w') :
    CarriesCertificate context.certificate authenticated
      ∧ w.files.write output authenticated = .ok w'.files := by
  obtain ⟨d, hdraft, rfl, hwrite, -⟩ := h.of_ok
  refine ⟨?_, hwrite⟩
  rw [← hdraft.certificate_eq]
  exact d.carriesCertificate (k.wrapKeys w)

/-! ## Runs -/

/-- Files are written one after the other. -/
def FileTree.writeAll (t : FileTree) (files : List (Path × Bytes)) : Except FileError FileTree :=
  files.foldlM (fun t file => t.write file.1 file.2) t

theorem FileTree.writeAll_cons {t t' : FileTree} {p : Path} {bytes : Bytes}
    (h : t.write p bytes = .ok t') (files : List (Path × Bytes)) :
    t.writeAll ((p, bytes) :: files) = t'.writeAll files := by
  rw [writeAll, List.foldlM_cons, h]
  rfl

/-- A run that comes to a write has checked the certificate, and writes documents that carry it. -/
structure WritesCertified (r : ProtectRequest) (w w' : World) (k : Keystore)
    (files : List (Path × Bytes)) : Prop where
  identity : Keystore.load r.keystore (w.files.read r.keystore) = .ok k
  holds : k.HoldsAt w.present
  writes : w.files.writeAll files = .ok w'.files
  paths : files.map Prod.fst <+: [r.protectedModelPath, r.masterLicensePath]
  carries : ∀ file ∈ files, CarriesCertificate k.certificate file.2

/-- The model is written first, and nothing before it. -/
theorem Protects.writesCertified {result : Except StageError ProtectOutcome}
    (h : Protects r live w result w') :
    w'.files = w.files ∨ ∃ k files, WritesCertified r w w' k files := by
  cases h with
  | invalid => exact .inl rfl
  | identityFull => exact .inl rfl
  | identity => exact .inl rfl
  | contentFull => exact .inl rfl
  | model _ _ hmodel => exact .inl hmodel.files_eq
  | @license k _ signed _ w₁ _ _ hload hmodel hlicense =>
    obtain ⟨hholds, hcarries, -, hwrite⟩ := hmodel.certified
    refine .inr ⟨k, [(r.protectedModelPath, signed)], hload, hholds, ?_, ?_, ?_⟩
    · have hmodel' : w.files.write r.protectedModelPath signed = .ok w₁.files := hwrite
      rw [FileTree.writeAll_cons hmodel', hlicense.files_eq]
      rfl
    · exact List.cons_prefix_cons.2 ⟨rfl, List.nil_prefix⟩
    · exact List.forall_mem_singleton.2 hcarries
  | @done k _ signed authenticated _ _ _ w₁ _ _ hload hmodel hlicense _ _ =>
    obtain ⟨hholds, hcarries, hcontext, hwrite⟩ := hmodel.certified
    obtain ⟨hcarries', hwrite'⟩ := hlicense.certified
    rw [hcontext] at hcarries'
    refine .inr ⟨k, [(r.protectedModelPath, signed), (r.masterLicensePath, authenticated)], hload,
      hholds, ?_, List.prefix_refl _, ?_⟩
    · have hmodel' : w.files.write r.protectedModelPath signed = .ok w₁.files := hwrite
      rw [FileTree.writeAll_cons hmodel', FileTree.writeAll_cons hwrite']
      rfl
    · exact List.forall_mem_cons.2 ⟨hcarries, List.forall_mem_singleton.2 hcarries'⟩

/-- **Nothing is written without a certificate of one's own.** Whatever bytes the keystore file has, a
run leaves all files as they were unless these bytes prove, at the time that the clock first shows,
that the certificate in them is one's own. Then the model is written, or the model and the license, and
each of them carries the text of that certificate as the certificate of its issuer. -/
theorem protect_writes_own_certificate (r : ProtectRequest) (t : SlotTable) (w : World) :
    let w' := ((protect r : OnWorld (Except StageError ProtectOutcome)) t w).2
    w'.files = w.files
      ∨ ∃ bytes e seed c key files, w.files.read r.keystore = .ok bytes
        ∧ Keystore.Proves bytes w.present e seed c key
        ∧ w.files.writeAll files = .ok w'.files
        ∧ files.map Prod.fst <+: [r.protectedModelPath, r.masterLicensePath]
        ∧ ∀ file ∈ files, CarriesCertificate e.certificate file.2 := by
  obtain ⟨result, t', w', hrun, hprotects, -⟩ := protect_runs r t w
  rw [hrun]
  rcases hprotects.writesCertified with hsame | ⟨k, files, h⟩
  · exact .inl hsame
  · obtain ⟨bytes, e, c, key, hread, htext, hproves⟩ := h.holds.proves h.identity
    have hcarries := h.carries
    rw [htext] at hcarries
    exact .inr ⟨bytes, e, k.seed, c, key, files, hread, hproves, h.writes, h.paths, hcarries⟩

end ModelProtection
