/-
How the two documents are built.

As with the files, every way in which a build can go is listed once
(`BuildsModel`, `BuildsLicense`), and a run under leases is one of those
(`modelBuild_runs`, `licenseBuild_runs`). The lists say which check decides, what
is in the document that was drafted by then, and what becomes of the files: only
the last entry of each list changes any.
-/
import ModelProtection.Proofs.Protect.Encrypting

set_option autoImplicit false

namespace ModelProtection

variable {t t' : SlotTable} {w w' : World} {k : Keystore} {key : Octets 32} {full : Prop}
  {identitySlot contentSlot : SlotId}

/-! ## The protected model -/

/-- The certificate of an identity is good at an instant, and is its own. -/
def Keystore.HoldsAt (k : Keystore) (now : Instant) : Prop :=
  ∃ c, SlotTable.vouch k.certificate (some now) = .ok c
    ∧ c.binds (Ed25519.publicKey k.seed) = true

/-- A model document is drafted: the files are encrypted, and then its GUID is drawn. The lengths of
the ciphertexts add up to `total`. -/
structure DraftsModel (k : Keystore) (key : Octets 32) (full : Prop) (policy : TrailingByte)
    (files : List InputFile) (metadata : Metadata) (w : World) (d : ModelDocument) (total : Nat)
    (w' : World) : Prop where
  /-- What the model says about itself is within its bounds. -/
  metadata_ok : metadata.validate = .ok ()
  /-- The certificate is good at the present time. -/
  holds : k.HoldsAt w.present
  /-- The files are encrypted, and the GUID is made of what is drawn next. -/
  encrypts : ∃ w₁, Encrypts key policy full w.afterTick 0 files (.ok ⟨d.artifacts, total⟩) w₁
    ∧ d.guid = Guid.ofRandom (w₁.nextRandom 16) ∧ w' = w₁.afterDraw 16
  /-- The document says what the model says about itself. -/
  metadata_eq : d.metadata = metadata
  /-- The document carries the certificate of the identity. -/
  certificate_eq : d.certificate = k.certificate

/-- What the license is told about a model document with the given bytes. -/
def ModelDocument.context (d : ModelDocument) (bytes : Bytes) : ProtectionContext where
  certificate := d.certificate
  modelGuid := some d.guid
  modelHash := some ⟨Sha2.sha256 bytes⟩

/-- Building a protected model gives a result and leaves a world. -/
inductive BuildsModel (k : Keystore) (key : Octets 32) (full : Prop) (b : ModelBuild)
    (files : List InputFile) (metadata : Metadata) (w : World) :
    Except ProtectError (ProtectionContext × Bytes) → World → Prop where
  /-- What the model says about itself breaks a bound. -/
  | metadata {e : Bound.Error} (h : metadata.validate = .error e) :
    BuildsModel k key full b files metadata w (.error (.parameter (.bound e))) w
  /-- The certificate does not hold now. -/
  | certificate {e : CryptoError} (h : SlotTable.vouch k.certificate (some w.present) = .error e) :
    BuildsModel k key full b files metadata w (.error (.crypto e)) w.afterTick
  /-- The certificate is not that of the key. -/
  | foreign {c : Certificate} (hvouch : SlotTable.vouch k.certificate (some w.present) = .ok c)
    (h : c.binds (Ed25519.publicKey k.seed) = false) :
    BuildsModel k key full b files metadata w
      (.error (.crypto (.failed .certificateVerification .foreignCertificate))) w.afterTick
  /-- A file is not encrypted. -/
  | files {e : ProtectError} {w' : World} (holds : k.HoldsAt w.present)
    (h : Encrypts key b.trailingByte full w.afterTick 0 files (.error e) w') :
    BuildsModel k key full b files metadata w (.error e) w'
  /-- The size of the document does not fit a word. -/
  | capacity {d : ModelDocument} {total : Nat} {e : ProtectError} {w' : World}
    (hdraft : DraftsModel k key full b.trailingByte files metadata w d total w')
    (h : modelCapacity (byteLength d.certificate) d.artifacts.length total = .error e) :
    BuildsModel k key full b files metadata w (.error e) w'
  /-- The document does not fit its buffer. -/
  | document {d : ModelDocument} {total capacity : Nat} {e : ProtectError} {w' : World}
    (hdraft : DraftsModel k key full b.trailingByte files metadata w d total w')
    (hcapacity : modelCapacity (byteLength d.certificate) d.artifacts.length total = .ok capacity)
    (h : d.toBytes capacity = .error e) :
    BuildsModel k key full b files metadata w (.error e) w'
  /-- The document cannot be sealed. -/
  | signature {d : ModelDocument} {total capacity : Nat} {bytes : Bytes} {e : Envelope.SealError}
    {w' : World} (hdraft : DraftsModel k key full b.trailingByte files metadata w d total w')
    (hcapacity : modelCapacity (byteLength d.certificate) d.artifacts.length total = .ok capacity)
    (hbytes : d.toBytes capacity = .ok bytes) (h : (Envelope.signed k.seed bytes).encode = .error e) :
    BuildsModel k key full b files metadata w (.error (.crypto (.failed .signing (.sealing e)))) w'
  /-- The file cannot be written. -/
  | output {d : ModelDocument} {total capacity : Nat} {bytes signed : Bytes} {e : FileError}
    {w' : World} (hdraft : DraftsModel k key full b.trailingByte files metadata w d total w')
    (hcapacity : modelCapacity (byteLength d.certificate) d.artifacts.length total = .ok capacity)
    (hbytes : d.toBytes capacity = .ok bytes) (hsigned : (Envelope.signed k.seed bytes).encode = .ok signed)
    (h : w'.files.write b.output signed = .error e) :
    BuildsModel k key full b files metadata w (.error (.fileOpen b.output e)) w'
  /-- The signed document is written. -/
  | built {d : ModelDocument} {total capacity : Nat} {bytes signed : Bytes} {w' : World}
    {tree : FileTree} (hdraft : DraftsModel k key full b.trailingByte files metadata w d total w')
    (hcapacity : modelCapacity (byteLength d.certificate) d.artifacts.length total = .ok capacity)
    (hbytes : d.toBytes capacity = .ok bytes) (hsigned : (Envelope.signed k.seed bytes).encode = .ok signed)
    (hwrite : w'.files.write b.output signed = .ok tree) :
    BuildsModel k key full b files metadata w (.ok (d.context bytes, signed)) (w'.withFiles tree)

section Model

variable (h : Leased t k key full identitySlot contentSlot)
include h

theorem Leased.certificate :
    Runs (WorkflowT.call (CryptoService.certificate identitySlot)) t w (.ok k.certificate) t w := by
  refine Runs.call (.ok k.certificate) (Runs.operation_ok ?_)
  simp only [bind, StateT.bind, SlotTable.identity_eq h.identity, Except.bind]
  rfl

/-- Checking the certificate of the identity reads the clock. -/
theorem Leased.verifyCertificate_error {e : CryptoError}
    (hvouch : SlotTable.vouch k.certificate (some w.present) = .error e) :
    Runs (WorkflowT.call (CryptoService.verifyCertificate identitySlot false k.certificate true)) t w
      (.error (.crypto e)) t w.afterTick := by
  have hop := SlotTable.verifyCertificate_eq h.identity k.certificate (some w.present)
  rw [hvouch] at hop
  exact Runs.call (.error e) (Runs.operation_error (w := w.afterTick) hop)

theorem Leased.verifyCertificate_foreign {c : Certificate}
    (hvouch : SlotTable.vouch k.certificate (some w.present) = .ok c)
    (hbinds : c.binds (Ed25519.publicKey k.seed) = false) :
    Runs (WorkflowT.call (CryptoService.verifyCertificate identitySlot false k.certificate true)) t w
      (.error (.crypto (.failed .certificateVerification .foreignCertificate))) t w.afterTick := by
  have hop := SlotTable.verifyCertificate_eq h.identity k.certificate (some w.present)
  rw [hvouch] at hop
  exact Runs.call (.error _) (Runs.operation_error (w := w.afterTick)
    (hop.trans (if_neg (Bool.eq_false_iff.1 hbinds))))

theorem Leased.verifyCertificate_ok (hholds : k.HoldsAt w.present) :
    Runs (WorkflowT.call (CryptoService.verifyCertificate identitySlot false k.certificate true)) t w
      (.ok ()) t w.afterTick := by
  obtain ⟨c, hvouch, hbinds⟩ := hholds
  have hop := SlotTable.verifyCertificate_eq h.identity k.certificate (some w.present)
  rw [hvouch] at hop
  exact Runs.call (.ok ()) (Runs.operation_ok (w := w.afterTick) (hop.trans (if_pos hbinds)))

theorem Leased.sign_error {document : Bytes} {e : Envelope.SealError}
    (hsign : (Envelope.signed k.seed document).encode = .error e) :
    Runs (WorkflowT.call (CryptoService.sign identitySlot document)) t w
      (.error (.crypto (.failed .signing (.sealing e)))) t w := by
  refine Runs.call (.error _) (Runs.operation_error ?_)
  rw [SlotTable.sign_eq h.identity, hsign]

theorem Leased.sign_ok {document signed : Bytes}
    (hsign : (Envelope.signed k.seed document).encode = .ok signed) :
    Runs (WorkflowT.call (CryptoService.sign identitySlot document)) t w (.ok signed) t w := by
  refine Runs.call (.ok signed) (Runs.operation_ok ?_)
  rw [SlotTable.sign_eq h.identity, hsign]

/-- A build under leases is one of those in the list. Where it succeeds, the leases are still
there. -/
theorem modelBuild_runs {b : ModelBuild} {files : List InputFile} {metadata : Metadata}
    {result : Except ProtectError (ProtectionContext × Bytes)}
    (hrun : Runs (b.run ⟨identitySlot, .identity, false⟩ ⟨contentSlot, .content, false⟩ files metadata)
      t w result t' w') :
    BuildsModel k key full b files metadata w result w'
      ∧ ∀ value, result = .ok value → Leased t' k key full identitySlot contentSlot := by
  rw [ModelBuild.run] at hrun
  rcases hmetadata : metadata.validate with e | ⟨⟩
  · obtain ⟨rfl, -, rfl⟩ := hrun.bind_error (.check_error hmetadata)
    exact ⟨.metadata hmetadata, nofun⟩
  replace hrun := hrun.bind_ok (.check_ok hmetadata)
  replace hrun := hrun.bind_ok (.call (.ok identitySlot) rfl)
  replace hrun := hrun.bind_ok h.certificate
  rcases hvouch : SlotTable.vouch k.certificate (some w.present) with e | c
  · obtain ⟨rfl, -, rfl⟩ := hrun.bind_error (h.verifyCertificate_error hvouch)
    exact ⟨.certificate hvouch, nofun⟩
  rcases hbinds : c.binds (Ed25519.publicKey k.seed)
  · obtain ⟨rfl, -, rfl⟩ := hrun.bind_error (h.verifyCertificate_foreign hvouch hbinds)
    exact ⟨.foreign hvouch hbinds, nofun⟩
  have hholds : k.HoldsAt w.present := ⟨c, hvouch, hbinds⟩
  -- the certificate holds, so now the files
  replace hrun := hrun.bind_ok (h.verifyCertificate_ok hholds)
  rcases hrun.bind with ⟨e, rfl, hfiles⟩ | ⟨encrypted, t₁, w₁, hfiles, hdocument⟩
  · exact ⟨.files hholds (h.encryptFrom_runs hfiles).1, nofun⟩
  obtain ⟨hencrypts, hleased⟩ := h.encryptFrom_runs hfiles
  replace hleased := hleased encrypted rfl
  -- from here on the table stays, and only the GUID is drawn
  have hguid : Runs (WorkflowT.call CryptoService.generateGuid) t₁ w₁
      (.ok (Guid.ofRandom (w₁.nextRandom 16))) t₁ (w₁.afterDraw 16) :=
    .call (.ok (Guid.ofRandom (w₁.nextRandom 16))) rfl
  replace hrun := hdocument.bind_ok hguid
  have hdraft : DraftsModel k key full b.trailingByte files metadata w
      ⟨metadata, .ofRandom (w₁.nextRandom 16), k.certificate, encrypted.artifacts⟩
      encrypted.totalLength (w₁.afterDraw 16) :=
    ⟨hmetadata, hholds, ⟨w₁, hencrypts, rfl, rfl⟩, rfl, rfl⟩
  rcases hcapacity : modelCapacity (byteLength k.certificate) encrypted.artifacts.length
    encrypted.totalLength with e | capacity
  · obtain ⟨rfl, -, rfl⟩ := hrun.bind_error (.compute hcapacity)
    exact ⟨.capacity hdraft hcapacity, nofun⟩
  replace hrun := hrun.bind_ok (.compute hcapacity)
  rcases hbytes : ModelDocument.toBytes ⟨metadata, .ofRandom (w₁.nextRandom 16), k.certificate,
    encrypted.artifacts⟩ capacity with e | bytes
  · obtain ⟨rfl, -, rfl⟩ := hrun.bind_error (.compute hbytes)
    exact ⟨.document hdraft hcapacity hbytes, nofun⟩
  replace hrun := hrun.bind_ok (.compute hbytes)
  replace hrun := hrun.bind_ok (.call (.ok ⟨Sha2.sha256 bytes⟩) rfl)
  rcases hsigned : (Envelope.signed k.seed bytes).encode with e | signed
  · obtain ⟨rfl, -, rfl⟩ := hrun.bind_error (hleased.sign_error hsigned)
    exact ⟨.signature hdraft hcapacity hbytes hsigned, nofun⟩
  replace hrun := hrun.bind_ok (hleased.sign_ok hsigned)
  rcases hwrite : (w₁.afterDraw 16).files.write b.output signed with e | tree
  · obtain ⟨rfl, -, rfl⟩ := hrun.bind_error (.writeOutput_error hwrite)
    exact ⟨.output hdraft hcapacity hbytes hsigned hwrite, nofun⟩
  obtain ⟨rfl, rfl, rfl⟩ := (hrun.bind_ok (.writeOutput_ok hwrite)).pure
  exact ⟨.built hdraft hcapacity hbytes hsigned hwrite, fun _ _ => hleased⟩

end Model

/-! ## The master license -/

/-- A license is drafted: the content key is wrapped under the keys of the salt that is drawn next,
and then the clock is read. -/
structure DraftsLicense (k : Keystore) (key : Octets 32) (licenseGuid : String)
    (context : ProtectionContext) (w : World) (d : LicenseDocument) : Prop where
  /-- The GUID of the license is one. -/
  guid_ok : ∃ g, Guid.parse licenseGuid = .ok g
  /-- The license says what is known about the model. -/
  context_eq : context.require = .ok (d.modelGuid, d.modelHash)
  /-- The license carries the content key. -/
  wraps : ∃ body, (DerivedKeys.expand k.seed (w.nextRandom DerivedKeys.saltSize) .wrap).encrypt
      key.toList = .ok body
    ∧ d.wrappedKey = Salted.write ⟨w.nextRandom DerivedKeys.saltSize, body⟩
  /-- The date of the license is the present one. -/
  creationDate_eq : d.creationDate = w.present.line
  /-- The GUID of the license is recorded as it was given. -/
  licenseGuid_eq : d.licenseGuid = licenseGuid
  /-- The license carries the certificate of the model. -/
  certificate_eq : d.certificate = context.certificate

/-- The world after a license was drafted. -/
def World.afterLicense (w : World) : World := (w.afterDraw DerivedKeys.saltSize).afterTick

/-- The keys under which a license is authenticated. -/
def Keystore.wrapKeys (k : Keystore) (w : World) : DerivedKeys :=
  .expand k.seed (w.nextRandom DerivedKeys.saltSize) .wrap

/-- Building a license gives a result and leaves a world. -/
inductive BuildsLicense (k : Keystore) (key : Octets 32) (full : Prop) (output : Path)
    (licenseGuid : String) (context : ProtectionContext) (w : World) :
    Except ProtectError Bytes → World → Prop where
  /-- The GUID of the license is not one. -/
  | guid {e : Guid.Error} (h : Guid.parse licenseGuid = .error e) :
    BuildsLicense k key full output licenseGuid context w (.error (.parameter (.guid e))) w
  /-- Something is not known about the model. -/
  | context {e : ProtectError} (h : context.require = .error e) :
    BuildsLicense k key full output licenseGuid context w (.error e) w
  /-- There is no slot for the derived keys. -/
  | full (live : Nat) (hfull : full) :
    BuildsLicense k key full output licenseGuid context w (.error (.crypto (.slotsExhausted live)))
      (w.afterDraw DerivedKeys.saltSize)
  /-- The license cannot be written down. -/
  | document {d : LicenseDocument} {e : ProtectError}
    (hdraft : DraftsLicense k key licenseGuid context w d) (h : d.toBytes = .error e) :
    BuildsLicense k key full output licenseGuid context w (.error e) w.afterLicense
  /-- The license cannot be sealed. -/
  | code {d : LicenseDocument} {bytes : Bytes} {e : Envelope.SealError}
    (hdraft : DraftsLicense k key licenseGuid context w d) (hbytes : d.toBytes = .ok bytes)
    (h : (Envelope.authenticated (k.wrapKeys w) bytes).encode = .error e) :
    BuildsLicense k key full output licenseGuid context w
      (.error (.crypto (.failed .hmac (.sealing e)))) w.afterLicense
  /-- The file cannot be written. -/
  | output {d : LicenseDocument} {bytes authenticated : Bytes} {e : FileError}
    (hdraft : DraftsLicense k key licenseGuid context w d) (hbytes : d.toBytes = .ok bytes)
    (hcode : (Envelope.authenticated (k.wrapKeys w) bytes).encode = .ok authenticated)
    (h : w.files.write output authenticated = .error e) :
    BuildsLicense k key full output licenseGuid context w (.error (.fileOpen output e)) w.afterLicense
  /-- The authenticated license is written. -/
  | built {d : LicenseDocument} {bytes authenticated : Bytes} {tree : FileTree}
    (hdraft : DraftsLicense k key licenseGuid context w d) (hbytes : d.toBytes = .ok bytes)
    (hcode : (Envelope.authenticated (k.wrapKeys w) bytes).encode = .ok authenticated)
    (hwrite : w.files.write output authenticated = .ok tree) :
    BuildsLicense k key full output licenseGuid context w (.ok authenticated)
      (w.afterLicense.withFiles tree)

/-- Wrapping where there is room. -/
theorem Runs.wrapKey_ok {seed : Octets 32} {certificate : String} (hinit : t.initialised = true)
    (hroom : ¬ SlotTable.mostLive < t.liveCount + 1)
    (hidentity : t.material? identitySlot = some (.identity seed certificate))
    (hcontent : t.material? contentSlot = some (.content key)) :
    ∃ body, (DerivedKeys.expand seed (w.nextRandom DerivedKeys.saltSize) .wrap).encrypt key.toList
        = .ok body
      ∧ Runs (WorkflowT.call (KeyLease.wrapKey ⟨identitySlot, .identity, false⟩
          ⟨contentSlot, .content, false⟩)) t w
        (.ok (Salted.write ⟨w.nextRandom DerivedKeys.saltSize, body⟩, ⟨t.next, .derived, false⟩))
        (t.fill (.derived (.expand seed (w.nextRandom DerivedKeys.saltSize) .wrap)))
        (w.afterDraw DerivedKeys.saltSize) := by
  obtain ⟨body, hbody, hop⟩ := SlotTable.wrapKey_eq hinit hidentity hcontent
    (w.nextRandom DerivedKeys.saltSize)
  rw [if_neg hroom] at hop
  exact ⟨body, hbody, Runs.derivation (CryptoService.wrapKey identitySlot contentSlot)
    (Runs.operation_ok (w := w.afterDraw DerivedKeys.saltSize) hop)⟩

/-- Sealing a license under the keys that the wrapping derived. -/
theorem authenticate_error {keys : DerivedKeys} {document : Bytes} {e : Envelope.SealError}
    (hcode : (Envelope.authenticated keys document).encode = .error e) :
    Runs (WorkflowT.call (CryptoService.authenticate t.next document)) (t.fill (.derived keys)) w
      (.error (.crypto (.failed .hmac (.sealing e)))) (t.fill (.derived keys)) w := by
  refine Runs.call (.error _) (Runs.operation_error ?_)
  rw [SlotTable.authenticate_eq (SlotTable.material?_fill_next t _), hcode]

theorem authenticate_ok {keys : DerivedKeys} {document authenticated : Bytes}
    (hcode : (Envelope.authenticated keys document).encode = .ok authenticated) :
    Runs (WorkflowT.call (CryptoService.authenticate t.next document)) (t.fill (.derived keys)) w
      (.ok authenticated) (t.fill (.derived keys)) w := by
  refine Runs.call (.ok authenticated) (Runs.operation_ok ?_)
  rw [SlotTable.authenticate_eq (SlotTable.material?_fill_next t _), hcode]

section License

variable (h : Leased t k key full identitySlot contentSlot)
include h

/-- Wrapping in a full table. -/
theorem Leased.wrapKey_full (hfull : full) :
    Runs (WorkflowT.call (KeyLease.wrapKey ⟨identitySlot, .identity, false⟩
      ⟨contentSlot, .content, false⟩)) t w (.error (.crypto (.slotsExhausted t.liveCount))) t
      (w.afterDraw DerivedKeys.saltSize) := by
  obtain ⟨body, -, hop⟩ := SlotTable.wrapKey_eq h.initialised h.identity h.content
    (w.nextRandom DerivedKeys.saltSize)
  rw [if_pos (h.full_iff.1 hfull)] at hop
  exact Runs.derivation (CryptoService.wrapKey identitySlot contentSlot)
    (Runs.operation_error (w := w.afterDraw DerivedKeys.saltSize) hop)

/-- Wrapping where there is room. -/
theorem Leased.wrapKey_ok (hfree : ¬ full) :
    ∃ body, (k.wrapKeys w).encrypt key.toList = .ok body
      ∧ Runs (WorkflowT.call (KeyLease.wrapKey ⟨identitySlot, .identity, false⟩
          ⟨contentSlot, .content, false⟩)) t w
        (.ok (Salted.write ⟨w.nextRandom DerivedKeys.saltSize, body⟩, ⟨t.next, .derived, false⟩))
        (t.fill (.derived (k.wrapKeys w))) (w.afterDraw DerivedKeys.saltSize) :=
  Runs.wrapKey_ok h.initialised (fun hf => hfree (h.full_iff.2 hf)) h.identity h.content

/-- Making a license under leases: either it fails as in the list, whatever the output, or there is
an authenticated license. -/
theorem authenticated_runs {licenseGuid : String} {context : ProtectionContext}
    {result : Except ProtectError Bytes}
    (hrun : Runs (LicenseBuild.authenticated ⟨identitySlot, .identity, false⟩
      ⟨contentSlot, .content, false⟩ licenseGuid context Host.now) t w result t' w') :
    (∃ e, result = .error e ∧ ∀ output,
        BuildsLicense k key full output licenseGuid context w (.error e) w')
      ∨ ∃ d bytes authenticated, result = .ok authenticated
        ∧ DraftsLicense k key licenseGuid context w d ∧ d.toBytes = .ok bytes
        ∧ (Envelope.authenticated (k.wrapKeys w) bytes).encode = .ok authenticated
        ∧ w' = w.afterLicense := by
  rw [LicenseBuild.authenticated] at hrun
  rcases hguid : Guid.parse licenseGuid with e | guid
  · obtain ⟨rfl, -, rfl⟩ := hrun.bind_error (.check_error hguid)
    exact .inl ⟨_, rfl, fun _ => .guid hguid⟩
  replace hrun := hrun.bind_ok (.check_ok hguid)
  rcases hcontext : context.require with e | ⟨modelGuid, modelHash⟩
  · obtain ⟨rfl, -, rfl⟩ := hrun.bind_error (.compute hcontext)
    exact .inl ⟨_, rfl, fun _ => .context hcontext⟩
  replace hrun := hrun.bind_ok (.compute hcontext)
  by_cases hfull : full
  · obtain ⟨rfl, -, rfl⟩ := hrun.bind_error (h.wrapKey_full hfull)
    exact .inl ⟨_, rfl, fun _ => .full _ hfull⟩
  obtain ⟨body, hbody, hwrap⟩ := h.wrapKey_ok (w := w) hfull
  -- the derived keys are leased for the rest, and their lease ends whatever comes of it
  obtain ⟨t₁, hspan, rfl⟩ := (hrun.bind_ok hwrap).during rfl
  replace hspan := hspan.bind_ok .now
  have hdraft : DraftsLicense k key licenseGuid context w
      ⟨w.present.line, modelHash, licenseGuid, modelGuid,
        Salted.write ⟨w.nextRandom DerivedKeys.saltSize, body⟩, context.certificate⟩ :=
    ⟨⟨guid, hguid⟩, hcontext, ⟨body, hbody, rfl⟩, rfl, rfl, rfl⟩
  rcases hbytes : LicenseDocument.toBytes ⟨w.present.line, modelHash, licenseGuid, modelGuid,
    Salted.write ⟨w.nextRandom DerivedKeys.saltSize, body⟩, context.certificate⟩ with e | bytes
  · obtain ⟨rfl, -, rfl⟩ := hspan.bind_error (.compute hbytes)
    exact .inl ⟨_, rfl, fun _ => .document hdraft hbytes⟩
  replace hspan := hspan.bind_ok (.compute hbytes)
  replace hspan := hspan.bind_ok (.call (.ok t.next) rfl)
  rcases hcode : (Envelope.authenticated (k.wrapKeys w) bytes).encode with e | authenticated
  · cases hspan.symm.trans (authenticate_error hcode)
    exact .inl ⟨_, rfl, fun _ => .code hdraft hbytes hcode⟩
  · cases hspan.symm.trans (authenticate_ok hcode)
    exact .inr ⟨_, bytes, authenticated, rfl, hdraft, hbytes, hcode, rfl⟩

/-- A build under leases is one of those in the list. -/
theorem licenseBuild_runs {output : Path} {licenseGuid : String} {context : ProtectionContext}
    {result : Except ProtectError Bytes}
    (hrun : Runs (LicenseBuild.run output ⟨identitySlot, .identity, false⟩
      ⟨contentSlot, .content, false⟩ licenseGuid context) t w result t' w') :
    BuildsLicense k key full output licenseGuid context w result w' := by
  rw [LicenseBuild.run, LicenseBuild.runWith] at hrun
  -- making the license does not know its path; only the write behind it does
  rcases hrun.bind with ⟨e, rfl, hspan⟩ | ⟨bytes, t₁, w₁, hspan, hwrite⟩
  · obtain ⟨t₂, hmade, -⟩ := hspan.during rfl
    rcases authenticated_runs h hmade with ⟨_, he, hfails⟩ | ⟨_, _, _, hresult, -⟩
    · cases he
      exact hfails output
    · cases hresult
  obtain ⟨t₂, hmade, rfl⟩ := hspan.during rfl
  rcases authenticated_runs h hmade with ⟨_, hresult, -⟩ | ⟨d, document, _, hresult, hdraft, hbytes, hcode, rfl⟩
  · cases hresult
  cases hresult
  rcases htree : w.files.write output bytes with e | tree
  · obtain ⟨rfl, -, rfl⟩ := hwrite.bind_error (.writeOutput_error htree)
    exact .output hdraft hbytes hcode htree
  · obtain ⟨rfl, -, rfl⟩ := (hwrite.bind_ok (.writeOutput_ok htree)).pure
    exact .built hdraft hbytes hcode htree

end License

end ModelProtection
