/-
The documents fit their buffers.

A document that is written down is the whole indented text of its tree
(`eq_of_toBytes`), because a buffer takes every piece or fails. And the capacity
that was computed for it is enough: what the computation takes for each part is
at least what the part takes, whatever characters it is made of.
-/
import ModelProtection.Proofs.Buffer
import ModelProtection.Proofs.Json.Plain
import ModelProtection.Proofs.Size
import ModelProtection.Protect.Document

set_option autoImplicit false

namespace ModelProtection

open Json

/-! ## Bounded writing -/

section Writing

variable {j : Json} {capacity : Nat} {fault : Buffer.WriteError → SerializationFault} {bytes : Bytes}

theorem flatten_map_encode (l : List (List Char)) :
    (l.map Utf8.encode).flatten = Utf8.encode l.flatten := by
  induction l with
  | nil => rfl
  | cons piece l ih =>
    rw [List.map_cons, List.flatten_cons, ih, List.flatten_cons, Utf8.encode_append]

/-- Portions of a text, written one after the other into a buffer of a capacity. -/
def writePortions (portions : List Bytes) (capacity : Nat)
    (fault : Buffer.WriteError → SerializationFault) : Except ProtectError Bytes :=
  match Buffer.reserve capacity with
  | .error e => .error (.allocation (.reserve e))
  | .ok buffer =>
    match buffer.writeAll portions with
    | .error e => .error (.serialization (fault e))
    | .ok buffer => .ok buffer.content

/-- What comes of writing portions depends on the text that they make and not on where it was cut. -/
theorem writePortions_eq (portions : List Bytes) (capacity : Nat)
    (fault : Buffer.WriteError → SerializationFault) :
    writePortions portions capacity fault
      = if Buffer.mostCapacity < capacity then .error (.allocation (.reserve ⟨capacity⟩))
        else if portions.flatten.length ≤ capacity then .ok portions.flatten
        else .error (.serialization (fault ⟨capacity⟩)) := by
  by_cases hmost : Buffer.mostCapacity < capacity
  · have hreserve : Buffer.reserve capacity = .error ⟨capacity⟩ := by
      rw [Buffer.reserve, if_neg (by omega)]
    rw [writePortions, hreserve, if_pos hmost]
  rw [if_neg hmost]
  by_cases hfit : portions.flatten.length ≤ capacity
  · obtain ⟨b, b', hreserve, hwrite, hcontent⟩ := Buffer.reserve_writeAll (Nat.not_lt.1 hmost) hfit
    rw [writePortions, hreserve]
    dsimp only
    rw [hwrite, if_pos hfit, ← hcontent]
  · have hlong : capacity < 0 + portions.flatten.length := by omega
    rw [writePortions, Buffer.reserve_of_le (Nat.not_lt.1 hmost)]
    dsimp only
    rw [Buffer.writeAll_eq_error hlong, if_neg hfit]

theorem Json.writeBounded_eq (j : Json) (capacity : Nat)
    (fault : Buffer.WriteError → SerializationFault) :
    j.writeBounded capacity fault
      = if Buffer.mostCapacity < capacity then .error (.allocation (.reserve ⟨capacity⟩))
        else if size (j.pieces 0) ≤ capacity then .ok (Utf8.encode j.pretty)
        else .error (.serialization (fault ⟨capacity⟩)) := by
  have hportions := writePortions_eq ((j.pieces 0).map Utf8.encode) capacity fault
  rw [flatten_map_encode] at hportions
  exact hportions

theorem Json.eq_of_writeBounded (h : j.writeBounded capacity fault = .ok bytes) :
    bytes = Utf8.encode j.pretty := by
  rw [writeBounded_eq] at h
  split at h
  · cases h
  split at h
  · cases h
    rfl
  · cases h

theorem Json.writeBounded_eq_ok (hcapacity : capacity ≤ Buffer.mostCapacity)
    (hfit : size (j.pieces 0) ≤ capacity) :
    j.writeBounded capacity fault = .ok (Utf8.encode j.pretty) := by
  rw [writeBounded_eq, if_neg (Nat.not_lt.2 hcapacity), if_pos hfit]

/-- A text that is longer than its buffer is refused as a whole. -/
theorem Json.writeBounded_eq_error (hcapacity : capacity ≤ Buffer.mostCapacity)
    (hlong : capacity < size (j.pieces 0)) :
    j.writeBounded capacity fault = .error (.serialization (fault ⟨capacity⟩)) := by
  rw [writeBounded_eq, if_neg (Nat.not_lt.2 hcapacity), if_neg (Nat.not_le.2 hlong)]

end Writing

/-! ## Bounds -/

theorem Bound.le_of_require {field value : String} {most : Nat}
    (h : Bound.require field value most = .ok ()) : byteLength value ≤ most := by
  unfold Bound.require at h
  dsimp only at h
  split at h
  · cases h
  split at h
  · cases h
  omega

theorem Metadata.of_validate {m : Metadata} (h : m.validate = .ok ()) :
    byteLength m.name ≤ Bound.name ∧ byteLength m.description ≤ Bound.name
      ∧ byteLength m.version ≤ Bound.version := by
  rw [validate] at h
  cases hname : Bound.require "model name" m.name Bound.name with
  | error e => rw [hname] at h; cases h
  | ok _ =>
    rw [hname] at h
    cases hdescription : Bound.require "model description" m.description Bound.name with
    | error e => rw [hdescription] at h; cases h
    | ok _ =>
      rw [hdescription] at h
      exact ⟨Bound.le_of_require hname, Bound.le_of_require hdescription, Bound.le_of_require h⟩

/-- The number of bytes in the ciphertexts of some artifacts. -/
def Artifact.totalLength : List Artifact → Nat
  | [] => 0
  | a :: l => byteLength a.ciphertext + totalLength l

namespace ModelDocument

/-- The whole text of a model document. -/
def written (d : ModelDocument) : Bytes := Utf8.encode d.toJson.pretty

theorem eq_of_toBytes {d : ModelDocument} {capacity : Nat} {bytes : Bytes}
    (h : d.toBytes capacity = .ok bytes) : bytes = d.written :=
  Json.eq_of_writeBounded h

/-! ### The size of a model document -/

/-- The last digits of a position take two bytes at most. -/
theorem escapedLength_index (key : String) {n : Nat} (h : n < 100) :
    escapedLength (key ++ toString n) ≤ escapedLength key + 2 := by
  have hdigits : ∀ c ∈ Nat.toDigits 10 n, '0' ≤ c ∧ c ≤ '9' := by
    intro c hc
    have hdigit := Nat.isDigit_of_mem_toDigits (b := 10) (by decide) (by decide) hc
    simp only [Char.isDigit, Bool.and_eq_true, decide_eq_true_eq] at hdigit
    exact hdigit
  have hplain : ∀ c ∈ Nat.toDigits 10 n, isPlain c = true := by
    intro c hc
    obtain ⟨hlow, hhigh⟩ := hdigits c hc
    exact isPlain_of_isDigit (by simp only [Hex.isDigit, hlow, hhigh, decide_true, Bool.and_self,
      Bool.true_or])
  have hascii : ∀ c ∈ Nat.toDigits 10 n, c.val.toNat < 0x80 := fun c hc =>
    Nat.lt_of_le_of_lt (UInt32.le_iff_toNat_le.1 (hdigits c hc).2) (by decide)
  have hlength := (Nat.length_toDigits_le_iff (b := 10) (n := n) (k := 2) (by decide) (by decide)).2 h
  rw [escapedLength, String.toList_append, Nat.toString_eq_ofList_toDigits, String.toList_ofList, escape,
    List.flatMap_append, ← escape, ← escape, escape_eq_self hplain, Utf8.encode_append,
    List.length_append, length_encode_ascii hascii]
  exact Nat.add_le_add_left hlength _

/-- The entry of a file takes its name, its ciphertext, and less than what is set aside for the text
around them. -/
theorem size_artifactJson_le (position : Nat) (a : Artifact) :
    size (pieces (1 + 1) (artifactJson position a))
      ≤ escapedLength a.name + escapedLength a.ciphertext + 58 := by
  have hindex : position % indexModulus < 100 := Nat.mod_lt _ (by decide)
  have hname := escapedLength_index "file_name_" hindex
  have hbody := escapedLength_index "file_body_" hindex
  have hkeys : escapedLength "file_name_" = 10 ∧ escapedLength "file_body_" = 10 := by decide
  rw [artifactJson, size_object, size_memberPieces_cons, size_memberPieces_cons, size_text, size_text,
    memberPieces, size_nil, if_pos rfl, if_neg (by decide)]
  omega

/-- The tree of a file with its position. -/
def entryJson (p : Artifact × Nat) : Json := artifactJson p.2 p.1

theorem toJson_eq (d : ModelDocument) :
    d.toJson = .object [("name", .text d.metadata.name),
      ("description", .text d.metadata.description), ("version", .text d.metadata.version),
      ("model_guid", .text d.guid.canonical), ("isv_certificate", .text d.certificate),
      ("files", .list (d.artifacts.zipIdx.map entryJson))] := rfl

theorem size_artifacts_le {artifacts : List Artifact}
    (hname : ∀ a ∈ artifacts, byteLength a.name ≤ Bound.name)
    (hbody : ∀ a ∈ artifacts, escapedLength a.ciphertext = byteLength a.ciphertext) (first : Bool)
    (position : Nat) :
    size (elementPieces 1 first ((artifacts.zipIdx position).map entryJson))
      ≤ artifactSize * artifacts.length + Artifact.totalLength artifacts := by
  induction artifacts generalizing first position with
  | nil => exact Nat.zero_le _
  | cons a artifacts ih =>
    have hrest := ih (fun b hb => hname b (List.mem_cons_of_mem _ hb))
      (fun b hb => hbody b (List.mem_cons_of_mem _ hb)) false (position + 1)
    have hentry : size (pieces (1 + 1) (entryJson (a, position))) ≤ _ := size_artifactJson_le position a
    have hshort := hname a List.mem_cons_self
    have hescape := escapedLength_le a.name
    rw [hbody a List.mem_cons_self] at hentry
    rw [List.zipIdx_cons, List.map_cons, size_elementPieces_cons, Artifact.totalLength,
      List.length_cons, Nat.mul_add_one artifactSize]
    -- a name may have to be escaped throughout; the rest of what is set aside is for the text around
    have hseparator : (if first = true then 0 else 1) ≤ 1 := by
      split <;> omega
    have hbound : Bound.name = 256 := rfl
    have hsize : artifactSize = 1616 := rfl
    omega

/-- What is set aside for a model document is enough. -/
theorem size_toJson_le {d : ModelDocument} (hmetadata : d.metadata.validate = .ok ())
    (hname : ∀ a ∈ d.artifacts, byteLength a.name ≤ Bound.name)
    (hbody : ∀ a ∈ d.artifacts, escapedLength a.ciphertext = byteLength a.ciphertext) :
    size (d.toJson.pieces 0)
      ≤ byteLength d.certificate * escapeFactor + (modelTextSize + metadataSize + Guid.textLength)
        + artifactSize * d.artifacts.length + Artifact.totalLength d.artifacts := by
  obtain ⟨hn, hd, hv⟩ := Metadata.of_validate hmetadata
  have hartifacts : size (elementPieces (0 + 1) true (d.artifacts.zipIdx.map entryJson)) ≤ _ :=
    size_artifacts_le hname hbody true 0
  have hlist := size_list_le (0 + 1) (d.artifacts.zipIdx.map entryJson)
  have hkeys : escapedLength "name" = 4 ∧ escapedLength "description" = 11
      ∧ escapedLength "version" = 7 ∧ escapedLength "model_guid" = 10
      ∧ escapedLength "isv_certificate" = 15 ∧ escapedLength "files" = 5 := by decide
  have hname' := escapedLength_le d.metadata.name
  have hdescription := escapedLength_le d.metadata.description
  have hversion := escapedLength_le d.metadata.version
  have hcertificate := escapedLength_le d.certificate
  rw [toJson_eq, size_object, size_memberPieces_cons, size_memberPieces_cons,
    size_memberPieces_cons, size_memberPieces_cons, size_memberPieces_cons, size_memberPieces_cons,
    memberPieces, size_nil,
    size_text, size_text, size_text, size_text, size_text, escapedLength_canonical, if_pos rfl,
    if_neg (by decide)]
  simp only [hkeys]
  have hbounds : Bound.name = 256 ∧ Bound.version = 32 := ⟨rfl, rfl⟩
  have hfixed : modelTextSize + metadataSize = 160 + 544 * 6 := rfl
  have hfactor : escapeFactor = 6 := rfl
  rw [hfactor]
  omega

/-- A capacity that fits a word is computed. -/
theorem modelCapacity_eq_ok {certificateLength count total : Nat}
    (h : certificateLength * escapeFactor + (modelTextSize + metadataSize + Guid.textLength)
      + artifactSize * count + total < Size.bound) :
    modelCapacity certificateLength count total
      = .ok (certificateLength * escapeFactor + (modelTextSize + metadataSize + Guid.textLength)
          + artifactSize * count + total) := by
  rw [modelCapacity_eq, if_pos h]

end ModelDocument

namespace LicenseDocument

/-- The whole text of a license. -/
def written (d : LicenseDocument) : Bytes := Utf8.encode d.toJson.pretty

theorem eq_of_toBytes {d : LicenseDocument} {bytes : Bytes} (h : d.toBytes = .ok bytes) :
    bytes = d.written := by
  unfold toBytes at h
  cases hvalid : d.validate with
  | error e => rw [hvalid] at h; cases h
  | ok _ =>
    rw [hvalid] at h
    cases hcapacity : licenseCapacity (byteLength d.certificate) with
    | error e => rw [hcapacity] at h; cases h
    | ok capacity =>
      rw [hcapacity] at h
      exact Json.eq_of_writeBounded h

/-! ### The size of a license -/

/-- What a license that was drafted from valid parts looks like. -/
structure Fits (d : LicenseDocument) : Prop where
  /-- The GUID of the license is one. -/
  licenseGuid : ∃ g, Guid.parse d.licenseGuid = .ok g
  /-- The wrapped key is within its bound. -/
  wrappedKey : byteLength d.wrappedKey ≤ mostWrappedKey
  /-- The date is within its bound. -/
  creationDate : byteLength d.creationDate ≤ mostDate

theorem validate_eq_ok_iff {d : LicenseDocument} :
    d.validate = .ok () ↔ byteLength d.wrappedKey ≤ mostWrappedKey
      ∧ byteLength d.licenseGuid = Guid.textLength ∧ byteLength d.creationDate ≤ mostDate := by
  unfold LicenseDocument.validate
  constructor
  · intro h
    split at h
    · cases h
    split at h
    · cases h
    split at h
    · cases h
    · rename_i hkey hguid hdate
      exact ⟨Nat.le_of_not_lt hkey, Classical.not_not.1 hguid, Nat.le_of_not_lt hdate⟩
  · rintro ⟨hkey, hguid, hdate⟩
    rw [if_neg (Nat.not_lt_of_le hkey), if_neg (Classical.not_not.2 hguid),
      if_neg (Nat.not_lt_of_le hdate)]

theorem Fits.validate {d : LicenseDocument} (h : d.Fits) : d.validate = .ok () := by
  obtain ⟨g, hg⟩ := h.licenseGuid
  exact validate_eq_ok_iff.2 ⟨h.wrappedKey, (escapedLength_of_parse hg).2, h.creationDate⟩

/-- Four texts of a license are of any length. The digest, the GUID of the model and the text around
everything take the same in all licenses. -/
theorem size_toJson (d : LicenseDocument) :
    size (d.toJson.pieces 0)
      = 236 + escapedLength d.creationDate + escapedLength d.licenseGuid
        + escapedLength d.wrappedKey + escapedLength d.certificate := by
  have hhash : escapedLength d.modelHash.hex = 64 := by
    rw [ModelHash.hex, escapedLength_hex, d.modelHash.octets.length_toList]
  have hkeys : escapedLength "creation_date" = 13 ∧ escapedLength "model_hash" = 10
      ∧ escapedLength "license_guid" = 12 ∧ escapedLength "model_guid" = 10
      ∧ escapedLength "encryption_key" = 14 ∧ escapedLength "isv_certificate" = 15 := by decide
  have hguid : Guid.textLength = 36 := rfl
  rw [toJson, size_object, size_memberPieces_cons, size_memberPieces_cons, size_memberPieces_cons,
    size_memberPieces_cons, size_memberPieces_cons, size_memberPieces_cons, memberPieces, size_nil,
    size_text, size_text, size_text, size_text, size_text, size_text, escapedLength_canonical,
    hhash, if_pos rfl, if_neg (by decide)]
  simp only [hkeys]
  omega

/-- What is set aside for a license is enough. -/
theorem size_toJson_le {d : LicenseDocument} (h : d.Fits) :
    size (d.toJson.pieces 0) ≤ byteLength d.certificate * escapeFactor + licenseFixedSize := by
  obtain ⟨g, hg⟩ := h.licenseGuid
  have hguid := (escapedLength_of_parse hg).1
  have hkey := h.wrappedKey
  have hdate := h.creationDate
  have hdate' := escapedLength_le d.creationDate
  have hkey' := escapedLength_le d.wrappedKey
  have hcertificate := escapedLength_le d.certificate
  have hbounds : mostDate = 64 ∧ mostWrappedKey = 512 ∧ Guid.textLength = 36 := ⟨rfl, rfl, rfl⟩
  have hfixed : licenseFixedSize = 160 + 64 * 6 + 64 + 2 * 36 + 512 * 6 := rfl
  have hfactor : escapeFactor = 6 := rfl
  rw [size_toJson, hguid, hfactor]
  omega

theorem licenseCapacity_eq_ok {certificateLength : Nat}
    (h : certificateLength * escapeFactor + licenseFixedSize < Size.bound) :
    licenseCapacity certificateLength = .ok (certificateLength * escapeFactor + licenseFixedSize) := by
  rw [licenseCapacity_eq, if_pos h]

/-- A license that fits is written down as a whole. -/
theorem toBytes_eq_ok {d : LicenseDocument} (h : d.Fits)
    (hcapacity : byteLength d.certificate * escapeFactor + licenseFixedSize ≤ Buffer.mostCapacity) :
    d.toBytes = .ok d.written := by
  have hbound : Buffer.mostCapacity < Size.bound := by decide
  have hwrite : d.toJson.writeBounded _ .license = _ :=
    Json.writeBounded_eq_ok hcapacity (size_toJson_le h)
  simp only [toBytes, h.validate, licenseCapacity_eq_ok (Nat.lt_of_le_of_lt hcapacity hbound), bind,
    Except.bind, hwrite]
  rfl

end LicenseDocument

end ModelProtection
