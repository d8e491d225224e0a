/-
Whether the documents fit the buffers that are reserved for them.

The capacity of a buffer is computed from lengths alone, and the text that goes
into it is escaped, so the question is how much each part of a document can grow.
For a model the answer is that whatever grows was counted six times: names and
descriptions at their bounds, the certificate at its length. The ciphertexts were
counted once, and they do not grow.

A license has four texts of free length, and all that matters is how long they are
together when they are escaped (`LicenseDocument.size_toJson`). Three of them were
counted six times. The GUID of the license was counted once, because a GUID does
not grow; but only its length is checked, so another text of 36 bytes can take more
than what was set aside, and such a license is refused. A license that was drafted
has a GUID there, and a key so much shorter than what was set aside for it that its
code would fit the same buffer.
-/
import ModelProtection.Proofs.Protect.Outline

set_option autoImplicit false

namespace ModelProtection

open Json

/-! ## The protected model -/

/-- **The buffer for a model is always large enough.** Whatever a model says about itself within the
bounds, and whatever its certificate, its GUID and the names of its files are, the document is written
whole into a buffer of the capacity that was computed for it, if that can be reserved at all. Only the
ciphertexts must be of characters that are not escaped. -/
theorem model_document_fits (d : ModelDocument) (capacity : Nat)
    (hmetadata : d.metadata.validate = .ok ())
    (hnames : ∀ a ∈ d.artifacts, byteLength a.name ≤ Bound.name)
    (hciphertexts : ∀ a ∈ d.artifacts, ∀ c ∈ a.ciphertext.toList, escapeChar c = [c])
    (hcapacity : modelCapacity (byteLength d.certificate) d.artifacts.length
      (Artifact.totalLength d.artifacts) = .ok capacity)
    (hmost : capacity ≤ Buffer.mostCapacity) :
    d.toBytes capacity = .ok d.written ∧ d.written.length ≤ capacity := by
  have hbodies : ∀ a ∈ d.artifacts, escapedLength a.ciphertext = byteLength a.ciphertext :=
    fun a ha => escapedLength_of_escapeChar (hciphertexts a ha)
  have hsize : d.written.length ≤ capacity := by
    rw [ModelDocument.eq_of_modelCapacity hcapacity]
    exact ModelDocument.size_toJson_le hmetadata hnames hbodies
  exact ⟨Json.writeBounded_eq_ok hmost hsize, hsize⟩

/-- A model of which every text but the ciphertext is escaped throughout. -/
def ModelDocument.escapedSample : ModelDocument where
  metadata := ⟨"\x01", "\x01", "\x01"⟩
  guid := ⟨.ofListPadded 16 []⟩
  certificate := "\x01"
  artifacts := [⟨"\x01", "QQ=="⟩]

theorem model_document_fits_escaped :
    ModelDocument.escapedSample.metadata.validate = .ok ()
      ∧ modelCapacity (byteLength ModelDocument.escapedSample.certificate) 1 4 = .ok 5086
      ∧ ModelDocument.escapedSample.toBytes 5086 = .ok ModelDocument.escapedSample.written := by
  have hmetadata : ModelDocument.escapedSample.metadata.validate = .ok () := rfl
  have hcapacity : modelCapacity (byteLength ModelDocument.escapedSample.certificate) 1 4 = .ok 5086 :=
    rfl
  have hciphertexts : ∀ a ∈ ModelDocument.escapedSample.artifacts,
      ∀ c ∈ a.ciphertext.toList, escapeChar c = [c] :=
    List.forall_mem_singleton.2 (by simp [escapeChar])
  refine ⟨hmetadata, hcapacity, ?_⟩
  exact (model_document_fits .escapedSample _ hmetadata (by decide) hciphertexts hcapacity
    (by decide)).1

/-! ## The master license -/

namespace LicenseDocument

variable {d : LicenseDocument} {capacity : Nat}

/-- A capacity that was computed is the sum that it stands for. -/
theorem eq_of_licenseCapacity {certificateLength : Nat}
    (h : licenseCapacity certificateLength = .ok capacity) :
    capacity = certificateLength * escapeFactor + licenseFixedSize := by
  rw [licenseCapacity_eq] at h
  split at h
  · cases h
    rfl
  · cases h

/-- A license that passes its checks is written into a buffer of the capacity that was computed. -/
theorem toBytes_eq (hvalid : d.validate = .ok ())
    (hcapacity : licenseCapacity (byteLength d.certificate) = .ok capacity) :
    d.toBytes = d.toJson.writeBounded capacity .license := by
  simp only [toBytes, hvalid, hcapacity, bind, Except.bind]

/-- How long the texts of free length are together when they are escaped. -/
def escapedSize (d : LicenseDocument) : Nat :=
  escapedLength d.creationDate + escapedLength d.licenseGuid + escapedLength d.wrappedKey
    + escapedLength d.certificate

/-- What the GUID of a license may take: it was counted once, and the fixed text was counted with 24
bytes to spare. -/
def guidRoom : Nat := Guid.textLength + 24

/-- What is set aside for the texts of free length. -/
def textRoom (d : LicenseDocument) : Nat :=
  guidRoom + (mostDate + mostWrappedKey + byteLength d.certificate) * escapeFactor

/-- A license is within its capacity if and only if its texts are within their room. -/
theorem length_written_le_iff (hcapacity : licenseCapacity (byteLength d.certificate) = .ok capacity) :
    d.written.length ≤ capacity ↔ d.escapedSize ≤ d.textRoom := by
  have hsize : d.written.length = _ := size_toJson d
  have hroom : capacity = 236 + d.textRoom := by
    rw [eq_of_licenseCapacity hcapacity, textRoom, guidRoom]
    simp only [licenseFixedSize, licenseTextSize, mostDate, escapeFactor, ModelHash.textLength,
      Guid.textLength, mostWrappedKey]
    omega
  rw [hsize, hroom, escapedSize]
  omega

/-- Only the GUID of a license can break the room: all other texts were counted at their longest. -/
theorem escapedSize_le (hvalid : d.validate = .ok ())
    (hguid : escapedLength d.licenseGuid ≤ guidRoom) :
    d.escapedSize ≤ d.textRoom := by
  obtain ⟨hkey, -, hdate⟩ := validate_eq_ok_iff.1 hvalid
  have hkey' := escapedLength_le d.wrappedKey
  have hdate' := escapedLength_le d.creationDate
  have hcertificate := escapedLength_le d.certificate
  have hfactor : escapeFactor = 6 := rfl
  rw [escapedSize, textRoom, hfactor]
  omega

end LicenseDocument

/-- **When the buffer for a license is large enough.** A license that passes its checks, with a
capacity that can be reserved, is written whole if its texts are within their room when they are
escaped, and is refused if they are not. If the GUID of the license stays within its own room, as every
GUID does, all other texts may be of any characters. -/
theorem license_document_fits (d : LicenseDocument) (capacity : Nat) (hvalid : d.validate = .ok ())
    (hcapacity : licenseCapacity (byteLength d.certificate) = .ok capacity)
    (hmost : capacity ≤ Buffer.mostCapacity) :
    (d.escapedSize ≤ d.textRoom → d.toBytes = .ok d.written)
      ∧ (d.textRoom < d.escapedSize → d.toBytes = .error (.serialization (.license ⟨capacity⟩)))
      ∧ (escapedLength d.licenseGuid ≤ LicenseDocument.guidRoom → d.toBytes = .ok d.written) := by
  have hbytes := LicenseDocument.toBytes_eq hvalid hcapacity
  have hiff := LicenseDocument.length_written_le_iff hcapacity
  have hfits : d.escapedSize ≤ d.textRoom → d.toBytes = .ok d.written := by
    intro hroom
    rw [hbytes]
    exact Json.writeBounded_eq_ok hmost (hiff.2 hroom)
  refine ⟨hfits, ?_, fun hguid => hfits (LicenseDocument.escapedSize_le hvalid hguid)⟩
  intro hlong
  rw [hbytes]
  refine Json.writeBounded_eq_error hmost (Nat.lt_of_not_le fun hle => ?_)
  exact absurd (hiff.1 hle) (Nat.not_le_of_lt hlong)

/-- A license in which all texts but the GUID are at their longest and escaped throughout. -/
def LicenseDocument.escapedSample (licenseGuid : String) : LicenseDocument where
  creationDate := String.ofList (List.replicate 64 '\x01')
  modelHash := ⟨.ofListPadded 32 []⟩
  licenseGuid := licenseGuid
  modelGuid := ⟨.ofListPadded 16 []⟩
  wrappedKey := String.ofList (List.replicate 512 '\x01')
  certificate := "\x01"

namespace LicenseDocument

/-- The checks look at lengths alone. -/
theorem validate_escapedSample {licenseGuid : String} (h : byteLength licenseGuid = Guid.textLength) :
    (escapedSample licenseGuid).validate = .ok () :=
  validate_eq_ok_iff.2 ⟨Nat.le_of_eq (byteLength_replicate _ (by decide)), h,
    Nat.le_of_eq (byteLength_replicate _ (by decide))⟩

theorem licenseCapacity_escapedSample (licenseGuid : String) :
    licenseCapacity (byteLength (escapedSample licenseGuid).certificate) = .ok 3758 := by
  change licenseCapacity (byteLength "\x01") = _
  rfl

/-- The texts are 576 control characters and one more, and the GUID. -/
theorem size_escapedSample (licenseGuid : String) :
    size ((escapedSample licenseGuid).toJson.pieces 0) = 3698 + escapedLength licenseGuid := by
  have hdate : escapedLength (escapedSample licenseGuid).creationDate = 64 * 6 :=
    escapedLength_replicate 64 '\x01'
  have hkey : escapedLength (escapedSample licenseGuid).wrappedKey = 512 * 6 :=
    escapedLength_replicate 512 '\x01'
  have hcertificate : escapedLength (escapedSample licenseGuid).certificate = 6 := by
    change escapedLength "\x01" = 6
    decide
  have hguid : escapedLength (escapedSample licenseGuid).licenseGuid = escapedLength licenseGuid := rfl
  rw [size_toJson, hdate, hguid, hkey, hcertificate]
  omega

end LicenseDocument

theorem license_document_fits_escaped :
    let d := LicenseDocument.escapedSample "00000000-0000-0000-0000-000000000000"
    d.validate = .ok () ∧ licenseCapacity (byteLength d.certificate) = .ok 3758
      ∧ d.toBytes = .ok d.written := by
  intro d
  have hvalid : d.validate = .ok () := LicenseDocument.validate_escapedSample (by decide)
  have hcapacity := LicenseDocument.licenseCapacity_escapedSample "00000000-0000-0000-0000-000000000000"
  exact ⟨hvalid, hcapacity,
    (license_document_fits d 3758 hvalid hcapacity (by decide)).2.2 (by decide)⟩

/-- A license with 36 control characters for its GUID passes its checks and is refused. -/
theorem license_document_refused :
    let d := LicenseDocument.escapedSample (String.ofList (List.replicate 36 '\x01'))
    d.validate = .ok () ∧ licenseCapacity (byteLength d.certificate) = .ok 3758
      ∧ 3758 ≤ Buffer.mostCapacity ∧ d.toBytes = .error (.serialization (.license ⟨3758⟩)) := by
  intro d
  have hvalid : d.validate = .ok () :=
    LicenseDocument.validate_escapedSample (byteLength_replicate _ (by decide))
  have hcapacity := LicenseDocument.licenseCapacity_escapedSample (String.ofList (List.replicate 36 '\x01'))
  have hmost : 3758 ≤ Buffer.mostCapacity := by decide
  -- the GUID takes 216 bytes where 36 were set aside, and only 24 are to spare
  have hguid : escapedLength (String.ofList (List.replicate 36 '\x01')) = 36 * 6 :=
    escapedLength_replicate 36 '\x01'
  have hlong : 3758 < size (d.toJson.pieces 0) := by
    rw [LicenseDocument.size_escapedSample, hguid]
    decide
  exact ⟨hvalid, hcapacity, hmost,
    (LicenseDocument.toBytes_eq hvalid hcapacity).trans (Json.writeBounded_eq_error hmost hlong)⟩

/-! ## Licenses that are drafted -/

namespace LicenseDocument

/-- A license carries a GUID, the date of some instant, and a content key that was wrapped. -/
structure Drafted (d : LicenseDocument) (keys : DerivedKeys) (key : Octets 32) : Prop where
  /-- The GUID of the license is one. -/
  licenseGuid : ∃ g, Guid.parse d.licenseGuid = .ok g
  /-- The date is that of an instant. -/
  creationDate : ∃ created : Instant, d.creationDate = created.line
  /-- The wrapped key is what the keys made of the content key. -/
  wrappedKey : ∃ salt body, keys.encrypt key.toList = .ok body
    ∧ d.wrappedKey = Salted.write ⟨salt, body⟩

namespace Drafted

variable {d : LicenseDocument} {keys : DerivedKeys} {key : Octets 32}

/-- The wrapped key takes 88 bytes, and is not escaped. -/
theorem length_wrappedKey (h : d.Drafted keys key) :
    byteLength d.wrappedKey = 88 ∧ escapedLength d.wrappedKey = 88 := by
  obtain ⟨salt, body, hbody, hwrapped⟩ := h.wrappedKey
  have hlength : byteLength d.wrappedKey = 88 := by
    rw [hwrapped]
    exact Salted.byteLength_write_key hbody
  refine ⟨hlength, ?_⟩
  rw [← hlength, hwrapped]
  exact escapedLength_base64 _

theorem fits (h : d.Drafted keys key) : d.Fits where
  licenseGuid := h.licenseGuid
  wrappedKey := by
    rw [h.length_wrappedKey.1]
    decide
  creationDate := by
    obtain ⟨created, hdate⟩ := h.creationDate
    rw [hdate]
    exact created.length_line_le

/-- The document and its code together stay within what is set aside for the document. -/
theorem length_sealed_le (h : d.Drafted keys key) :
    d.written.length + Envelope.mostTag + Envelope.armourSize
      ≤ byteLength d.certificate * escapeFactor + licenseFixedSize := by
  obtain ⟨g, hg⟩ := h.licenseGuid
  have hsize : d.written.length = _ := size_toJson d
  have hguid := (escapedLength_of_parse hg).1
  have hdate := h.fits.creationDate
  have hdate' := escapedLength_le d.creationDate
  have hcertificate := escapedLength_le d.certificate
  have hbounds : mostDate = 64 ∧ Guid.textLength = 36 := ⟨rfl, rfl⟩
  have hfixed : licenseFixedSize = 3752 := rfl
  have hcode : Envelope.mostTag + Envelope.armourSize = 224 := rfl
  have hfactor : escapeFactor = 6 := rfl
  rw [hsize, hguid, h.length_wrappedKey.2, hfactor]
  omega

/-- A license that was drafted is written down and authenticated. -/
theorem written_ok (h : d.Drafted keys key)
    (hroom : byteLength d.certificate * escapeFactor + licenseFixedSize ≤ Buffer.mostCapacity) :
    d.toBytes = .ok d.written
      ∧ (Envelope.authenticated keys d.written).encode
        = .ok (Envelope.authenticated keys d.written).sealedBytes := by
  refine ⟨toBytes_eq_ok h.fits hroom, Envelope.encode_eq_ok ?_ ?_⟩
  · rw [Envelope.tag_authenticated, Hex.length_textBytes_encode, Octets.length_toList]
    decide
  · rw [Envelope.data_authenticated]
    exact Nat.le_trans h.length_sealed_le hroom

end Drafted

end LicenseDocument

end ModelProtection
