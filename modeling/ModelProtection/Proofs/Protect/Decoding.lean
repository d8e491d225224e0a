/-
The documents say what was put into them.

What a document is signed or authenticated as is a byte string, and the reader of a
byte string knows nothing of the document that it was made from. So a document is
described here by what a JSON reader finds in its bytes (`Decodes`): the members in
their order, and in each the text of the field, character for character. A byte
string is read in one way only, so it has one such description, and two documents
with the same bytes are the same (`Decodes.unique`).

Two fields are bytes and written as digits. The digits give the bytes back, for a
GUID once the hyphens are out (`Guid.digits_canonicalChars`).
-/
import ModelProtection.Proofs.Guid
import ModelProtection.Proofs.Json.Reading
import ModelProtection.Proofs.Protect.Capacity

set_option autoImplicit false

namespace ModelProtection

/-! ## A field that is written as digits -/

theorem ModelHash.hex_injective {h h' : ModelHash} (heq : h.hex = h'.hex) : h = h' := by
  have hoctets := Octets.ext_toList (Hex.encodeChars_injective (String.ofList_injective heq))
  cases h
  cases h'
  exact congrArg ModelHash.mk hoctets

/-! ## What a reader finds -/

/-- The key of the name of the file at a position. -/
def ModelDocument.nameKey (position : Nat) : String := "file_name_" ++ toString (position % 100)

/-- The key of the ciphertext of the file at a position. -/
def ModelDocument.bodyKey (position : Nat) : String := "file_body_" ++ toString (position % 100)

/-- What a reader finds in the bytes of a model document. -/
structure ModelDocument.Decodes (d : ModelDocument) (bytes : Bytes) : Prop where
  /-- The bytes are text. -/
  text : ∃ s, Utf8.decode bytes = .ok s
  /-- The text is an object with these members. There is an entry for each file, and it has two
  different members. -/
  members : ∃ files, Json.parse bytes = .ok (.object [
      ("name", .text d.metadata.name), ("description", .text d.metadata.description),
      ("version", .text d.metadata.version), ("model_guid", .text d.guid.canonical),
      ("isv_certificate", .text d.certificate), ("files", .list files)])
    ∧ files.length = d.artifacts.length
    ∧ ∀ (i : Nat) (a : Artifact), d.artifacts[i]? = some a →
      files[i]? = some (.object [(nameKey i, .text a.name), (bodyKey i, .text a.ciphertext)])
        ∧ nameKey i ≠ bodyKey i

/-- What a reader finds in the bytes of a license. -/
structure LicenseDocument.Decodes (d : LicenseDocument) (bytes : Bytes) : Prop where
  /-- The bytes are text. -/
  text : ∃ s, Utf8.decode bytes = .ok s
  /-- The text is an object with these members. -/
  members : Json.parse bytes = .ok (.object [
    ("creation_date", .text d.creationDate), ("model_hash", .text d.modelHash.hex),
    ("license_guid", .text d.licenseGuid), ("model_guid", .text d.modelGuid.canonical),
    ("encryption_key", .text d.wrappedKey), ("isv_certificate", .text d.certificate)])

/-- The text of a tree is read as it was written. -/
theorem Json.decode_pretty (v : Json) : ∃ s, Utf8.decode (Utf8.encode v.pretty) = .ok s := by
  have hread := Utf8.decode_textBytes (String.ofList v.pretty)
  rw [textBytes_ofList] at hread
  exact ⟨_, hread⟩

namespace ModelDocument

variable {d d' : ModelDocument} {bytes : Bytes}

theorem nameKey_ne_bodyKey (position : Nat) : nameKey position ≠ bodyKey position := by
  intro h
  have hchars := congrArg String.toList h
  rw [nameKey, bodyKey, String.toList_append, String.toList_append] at hchars
  have hlength : "file_name_".toList.length = "file_body_".toList.length := by decide
  have hstart : "file_name_".toList ≠ "file_body_".toList := by decide
  exact hstart (List.append_inj hchars hlength).1

theorem decodes_written (d : ModelDocument) : d.Decodes d.written where
  text := Json.decode_pretty d.toJson
  members := by
    refine ⟨d.artifacts.zipIdx.map entryJson, ?_, ?_, ?_⟩
    · rw [← toJson_eq]
      exact Json.parse_pretty d.toJson
    · rw [List.length_map, List.length_zipIdx]
    · intro i a ha
      refine ⟨?_, nameKey_ne_bodyKey i⟩
      rw [List.getElem?_map, List.getElem?_zipIdx, ha, Nat.zero_add]
      rfl

/-- A byte string decodes to one model document at most; its entries determine the files. -/
theorem Decodes.unique (h : d.Decodes bytes) (h' : d'.Decodes bytes) : d = d' := by
  obtain ⟨files, hread, hlength, hfiles⟩ := h.members
  obtain ⟨files', hread', hlength', hfiles'⟩ := h'.members
  have htree := Except.ok.inj (hread.symm.trans hread')
  simp only [Json.object.injEq, List.cons.injEq, Prod.mk.injEq, Json.text.injEq, Json.list.injEq,
    true_and, and_true] at htree
  obtain ⟨hname, hdescription, hversion, hguid, hcertificate, rfl⟩ := htree
  have hartifacts : d.artifacts = d'.artifacts := by
    refine List.ext_getElem (hlength.symm.trans hlength') fun i hi hi' => ?_
    have hentry := (hfiles i _ (List.getElem?_eq_getElem hi)).1.symm.trans
      (hfiles' i _ (List.getElem?_eq_getElem hi')).1
    simp only [Option.some.injEq, Json.object.injEq, List.cons.injEq, Prod.mk.injEq,
      Json.text.injEq, true_and, and_true] at hentry
    obtain ⟨hname, hbody⟩ := hentry
    rcases ha : d.artifacts[i] with ⟨name, ciphertext⟩
    rcases ha' : d'.artifacts[i] with ⟨name', ciphertext'⟩
    rw [ha, ha'] at hname hbody
    cases hname
    cases hbody
    rfl
  obtain ⟨⟨_, _, _⟩, _, _, _⟩ := d
  obtain ⟨⟨_, _, _⟩, _, _, _⟩ := d'
  cases hname
  cases hdescription
  cases hversion
  cases hcertificate
  cases hartifacts
  cases Guid.canonical_injective hguid
  rfl

end ModelDocument

namespace LicenseDocument

variable {d d' : LicenseDocument} {bytes : Bytes}

theorem decodes_written (d : LicenseDocument) : d.Decodes d.written where
  text := Json.decode_pretty d.toJson
  members := Json.parse_pretty d.toJson

theorem Decodes.unique (h : d.Decodes bytes) (h' : d'.Decodes bytes) : d = d' := by
  have htree := Except.ok.inj (h.members.symm.trans h'.members)
  simp only [Json.object.injEq, List.cons.injEq, Prod.mk.injEq, Json.text.injEq, true_and,
    and_true] at htree
  obtain ⟨hdate, hhash, hlicense, hguid, hkey, hcertificate⟩ := htree
  cases d
  cases d'
  cases hdate
  cases hlicense
  cases hkey
  cases hcertificate
  cases ModelHash.hex_injective hhash
  cases Guid.canonical_injective hguid
  rfl

end LicenseDocument

/-- **Documents decode to exactly what was put in.** The bytes of every model and of every license that
is written are text, and a JSON reader finds in them the members in their fixed order and in each the
text of its field, whatever characters that is made of; for each file of a model it finds an entry whose
two keys have the position of the file, up to a multiple of a hundred, at their ends. So two models
with the same bytes are the same in every field, and so are two licenses. -/
theorem documents_decode_exactly :
    (∀ (d : ModelDocument) (capacity : Nat) (bytes : Bytes), d.toBytes capacity = .ok bytes →
        d.Decodes bytes)
      ∧ (∀ (d : LicenseDocument) (bytes : Bytes), d.toBytes = .ok bytes → d.Decodes bytes)
      ∧ (∀ (d d' : ModelDocument) (capacity capacity' : Nat) (bytes : Bytes),
        d.toBytes capacity = .ok bytes → d'.toBytes capacity' = .ok bytes → d = d')
      ∧ ∀ (d d' : LicenseDocument) (bytes : Bytes),
        d.toBytes = .ok bytes → d'.toBytes = .ok bytes → d = d' := by
  have hmodel : ∀ (d : ModelDocument) (capacity : Nat) (bytes : Bytes),
      d.toBytes capacity = .ok bytes → d.Decodes bytes := by
    intro d capacity bytes hwrite
    rw [ModelDocument.eq_of_toBytes hwrite]
    exact d.decodes_written
  have hlicense : ∀ (d : LicenseDocument) (bytes : Bytes), d.toBytes = .ok bytes →
      d.Decodes bytes := by
    intro d bytes hwrite
    rw [LicenseDocument.eq_of_toBytes hwrite]
    exact d.decodes_written
  refine ⟨hmodel, hlicense, ?_, ?_⟩
  · intro d d' capacity capacity' bytes hwrite hwrite'
    exact (hmodel d capacity bytes hwrite).unique (hmodel d' capacity' bytes hwrite')
  · intro d d' bytes hwrite hwrite'
    exact (hlicense d bytes hwrite).unique (hlicense d' bytes hwrite')

/-- The samples of which every text is escaped are written and decode to what they are. -/
theorem documents_decode_exactly_sample :
    let d := ModelDocument.escapedSample
    let l := LicenseDocument.escapedSample "00000000-0000-0000-0000-000000000000"
    d.toBytes 1000 = .ok d.written ∧ d.Decodes d.written
      ∧ l.toBytes = .ok l.written ∧ l.Decodes l.written := by
  intro d l
  have hsize : Json.size (d.toJson.pieces 0) ≤ 1000 := by decide +kernel
  have hmodel : d.toBytes 1000 = .ok d.written := Json.writeBounded_eq_ok (by decide) hsize
  have hguid : ∃ g, Guid.parse "00000000-0000-0000-0000-000000000000" = .ok g := ⟨_, rfl⟩
  have hfits : l.Fits :=
    { licenseGuid := hguid
      wrappedKey := Nat.le_of_eq (byteLength_replicate _ (by decide))
      creationDate := Nat.le_of_eq (byteLength_replicate _ (by decide)) }
  have hlicense : l.toBytes = .ok l.written := LicenseDocument.toBytes_eq_ok hfits (by decide)
  obtain ⟨hmodels, hlicenses, -, -⟩ := documents_decode_exactly
  exact ⟨hmodel, hmodels d 1000 _ hmodel, hlicense, hlicenses l _ hlicense⟩

end ModelProtection
