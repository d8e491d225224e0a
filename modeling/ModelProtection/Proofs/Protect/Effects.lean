/-
What a run leaves in the world.

Encrypting draws random bytes and writes nothing (`Encrypts.files_eq`). A
build that fails leaves every file as it was, since the write is its last step
and a write that fails changes nothing; a build that succeeds has written exactly
one file, the whole sealed document (`BuildsModel.of_ok`, `BuildsLicense.of_ok`).
-/
import ModelProtection.Proofs.Host.Files
import ModelProtection.Proofs.Json.Reading
import ModelProtection.Proofs.Protect.Documents
import ModelProtection.Proofs.Protect.Protecting

set_option autoImplicit false

namespace ModelProtection

variable {w w' : World} {k : Keystore} {key : Octets 32} {full : Prop} {policy : TrailingByte}

/-! ## Paths -/

/-- What is asked of the paths of files is asked of the paths that were given. -/
theorem map_ofPaths {α : Type} (f : Path → α) (paths : List Path) :
    ((InputFile.ofPaths paths).map fun file => f file.path) = paths.map f := by
  have hfst : ∀ n, (paths.zipIdx n).map (f ∘ Prod.fst) = paths.map f := by
    intro n
    rw [← List.map_map, List.zipIdx_map_fst]
  rw [InputFile.ofPaths, List.map_map]
  exact hfst 0

theorem InputFile.path_mem_of_mem_ofPaths {file : InputFile} {paths : List Path}
    (h : file ∈ ofPaths paths) : file.path ∈ paths := by
  have hpath := List.mem_map_of_mem (f := fun file => id file.path) h
  rwa [map_ofPaths id paths, List.map_id] at hpath

theorem InputFile.length_ofPaths (paths : List Path) : (ofPaths paths).length = paths.length := by
  rw [ofPaths, List.length_map, List.length_zipIdx]

/-- The position of a file is that of its path. -/
theorem InputFile.getElem?_ofPaths {paths : List Path} {i : Nat} {p : Path} (h : paths[i]? = some p) :
    (ofPaths paths)[i]? = some ⟨p, i⟩ := by
  rw [ofPaths, List.getElem?_map, List.getElem?_zipIdx, h, Option.map_some, Option.map_some,
    Nat.zero_add]

/-! ## Encrypting -/

/-- A file that is not encrypted has used its salt or not. -/
theorem FailsFile.world_eq {total : Nat} {file : InputFile} {e : ProtectError}
    (h : FailsFile key policy full w total file e w') :
    w' = w ∨ w' = w.afterDraw DerivedKeys.saltSize := by
  cases h with
  | unreadable => exact .inl rfl
  | full => exact .inr rfl
  | encryption => exact .inr rfl
  | overflow => exact .inr rfl

/-- Encrypting files leaves every file as it was. -/
theorem Encrypts.files_eq {total : Nat} {files : List InputFile}
    {result : Except ProtectError EncryptedFiles} (h : Encrypts key policy full w total files result w') :
    w'.files = w.files := by
  induction h with
  | nil => rfl
  | first hfile => rcases hfile.world_eq with rfl | rfl <;> rfl
  | later _ _ _ _ ih => exact ih
  | all _ _ _ _ ih => exact ih

/-- Every file has its entry, in order and under its own name. -/
theorem Encrypts.names_eq {total : Nat} {files : List InputFile} {encrypted : EncryptedFiles}
    (h : Encrypts key policy full w total files (.ok encrypted) w') :
    encrypted.artifacts.map (·.name) = files.map (·.path.artifactName) := by
  induction files generalizing w total encrypted with
  | nil =>
    cases h
    rfl
  | cons file files ih =>
    cases h with
    | all _ hfile _ hfiles =>
      simp only [List.map_cons, hfile.name_eq, ih hfiles]

/-! ## The protected model -/

section Model

variable {b : ModelBuild} {files : List InputFile} {metadata : Metadata}

theorem DraftsModel.files_eq {d : ModelDocument} {total : Nat}
    (h : DraftsModel k key full policy files metadata w d total w') : w'.files = w.files := by
  obtain ⟨w₁, hencrypts, -, rfl⟩ := h.encrypts
  exact hencrypts.files_eq

theorem DraftsModel.names_eq {d : ModelDocument} {total : Nat}
    (h : DraftsModel k key full policy files metadata w d total w') :
    d.artifacts.map (·.name) = files.map (·.path.artifactName) := by
  obtain ⟨w₁, hencrypts, -, -⟩ := h.encrypts
  exact hencrypts.names_eq

/-- A model that is not built leaves every file. -/
theorem BuildsModel.files_eq {e : ProtectError}
    (h : BuildsModel k key full b files metadata w (.error e) w') : w'.files = w.files := by
  cases h with
  | metadata => rfl
  | certificate => rfl
  | foreign => rfl
  | files _ h => exact h.files_eq
  | capacity hdraft => exact hdraft.files_eq
  | document hdraft => exact hdraft.files_eq
  | signature hdraft => exact hdraft.files_eq
  | output hdraft => exact hdraft.files_eq

/-- A model that is built is one file, the whole document with its signature. -/
theorem BuildsModel.of_ok {context : ProtectionContext} {signed : Bytes}
    (h : BuildsModel k key full b files metadata w (.ok (context, signed)) w') :
    ∃ d total w₁, DraftsModel k key full b.trailingByte files metadata w d total w₁
      ∧ context = d.context d.written
      ∧ signed = (Envelope.signed k.seed d.written).sealedBytes
      ∧ w.files.write b.output signed = .ok w'.files
      ∧ w' = w₁.withFiles w'.files := by
  cases h with
  | @built d total capacity bytes _ w₁ tree hdraft hcapacity hbytes hsigned hwrite =>
    -- neither buffer cuts anything off
    cases ModelDocument.eq_of_toBytes hbytes
    cases Envelope.eq_of_encode hsigned
    rw [hdraft.files_eq] at hwrite
    exact ⟨d, total, w₁, hdraft, rfl, rfl, hwrite, rfl⟩

/-- What is found in the file of a protected model. -/
structure OpensModel (r : ProtectRequest) (k : Keystore) (d : ModelDocument) (bytes : Bytes) : Prop where
  /-- The file is the whole document with its signature. -/
  opens : Envelope.decode bytes = .ok (Envelope.signed k.seed d.written)
  /-- The document can be read. -/
  spells : Json.parse d.written = .ok d.toJson
  /-- The document says what the request says. -/
  metadata_eq : d.metadata = r.metadata
  /-- The document carries the certificate of the identity. -/
  certificate_eq : d.certificate = k.certificate
  /-- The document has an entry for every file, in order. -/
  names_eq : d.artifacts.map (·.name) = r.inputs.map Path.artifactName

theorem DraftsModel.opensModel {r : ProtectRequest} {d : ModelDocument} {total : Nat}
    (h : DraftsModel k key full policy (InputFile.ofPaths r.inputs) r.metadata w d total w') :
    OpensModel r k d (Envelope.signed k.seed d.written).sealedBytes where
  opens := Envelope.decode_sealedBytes (Envelope.isTag_signed k.seed d.written)
  spells := Json.parse_pretty _
  metadata_eq := h.metadata_eq
  certificate_eq := h.certificate_eq
  names_eq := by
    rw [h.names_eq, map_ofPaths Path.artifactName]

end Model

/-! ## The master license -/

section License

variable {output : Path} {licenseGuid : String} {context : ProtectionContext}

/-- A license that is not built leaves every file. -/
theorem BuildsLicense.files_eq {e : ProtectError}
    (h : BuildsLicense k key full output licenseGuid context w (.error e) w') :
    w'.files = w.files := by
  cases h <;> rfl

/-- A license that is built is one file, the whole document with its code. -/
theorem BuildsLicense.of_ok {authenticated : Bytes}
    (h : BuildsLicense k key full output licenseGuid context w (.ok authenticated) w') :
    ∃ d, DraftsLicense k key licenseGuid context w d
      ∧ authenticated = (Envelope.authenticated (k.wrapKeys w) d.written).sealedBytes
      ∧ w.files.write output authenticated = .ok w'.files
      ∧ w' = w.afterLicense.withFiles w'.files := by
  cases h with
  | @built d bytes _ tree hdraft hbytes hcode hwrite =>
    cases LicenseDocument.eq_of_toBytes hbytes
    cases Envelope.eq_of_encode hcode
    exact ⟨d, hdraft, rfl, hwrite, rfl⟩

end License

end ModelProtection
