/-
What opens was sealed.

Opening searches a byte string that may be anything for a mark, cuts what follows
into lines and takes each of them apart. Nothing is lost on the way: whatever is
found at a step determines what the step was given (`of_ofLines`,
`of_decode`). So a byte string that opens is its document with the one armour
block that sealing makes for it, and there is no second spelling of a sealed
document.
-/
import ModelProtection.Proofs.Envelope

set_option autoImplicit false

namespace ModelProtection

namespace Envelope

/-- A text of 1 to 128 hexadecimal digits. -/
def IsTag (tag : String) : Prop :=
  1 ≤ tag.toList.length ∧ tag.toList.length ≤ mostTag ∧ ∀ c ∈ tag.toList, Hex.isDigit c = true

theorem isTag_iff {tag : String} : isTag tag.toList = true ↔ IsTag tag := by
  rw [isTag, IsTag, Bool.and_eq_true, Bool.and_eq_true, decide_eq_true_eq, List.all_eq_true,
    Bool.not_eq_true', List.isEmpty_eq_false_iff, ← List.length_pos_iff]
  constructor
  · rintro ⟨⟨hpos, hdigits⟩, hlength⟩
    exact ⟨hpos, hlength, hdigits⟩
  · rintro ⟨hpos, hlength, hdigits⟩
    exact ⟨⟨hpos, hdigits⟩, hlength⟩

/-! ## Taking armour apart -/

theorem eq_label_of_ofLabel? {label : List Char} {kind : Kind}
    (h : Kind.ofLabel? label = some kind) : label = kind.label.toList := by
  rw [Kind.ofLabel?] at h
  split at h
  · rename_i hlabel
    cases h
    exact hlabel
  split at h
  · rename_i hlabel
    cases h
    exact hlabel
  · cases h

/-- The first line of armour has a mark, a label and dashes. -/
theorem eq_header {line label : List Char} {kind : Kind}
    (hline : (afterStart? beginMark line).bind (beforeEnd? dashes) = some label)
    (hkind : Kind.ofLabel? label = some kind) : line = header kind := by
  obtain ⟨rest, hstart, hending⟩ := Option.bind_eq_some_iff.1 hline
  rw [eq_append_of_afterStart? hstart, eq_append_of_beforeEnd? hending, eq_label_of_ofLabel? hkind,
    header]

/-- Four lines are known when the first three and what follows them are. -/
theorem eq_of_drop {α : Type} {l : List (List α)} {last : List α} (h : l.drop 3 = [last]) :
    l = [l.getD 0 [], l.getD 1 [], l.getD 2 [], last] := by
  match l with
  | [] => cases h
  | [_] => cases h
  | [_, _] => cases h
  | a :: b :: c :: l =>
    cases h
    rfl

/-- What is checked of the lines of armour. -/
theorem exists_of_ofLines {l : List (List Char)} {kind : Kind} {tag : List Char}
    (h : ofLines l = .ok (kind, tag)) :
    ∃ label, (afterStart? beginMark (l.getD 0 [])).bind (beforeEnd? dashes) = some label
      ∧ Kind.ofLabel? label = some kind ∧ l.getD 1 [] = tag ∧ isTag tag = true
      ∧ l.getD 2 [] = endMark ++ label ++ dashes ∧ l.drop 3 = [[]] := by
  rw [ofLines] at h
  dsimp only at h
  cases hlabel : (afterStart? beginMark (l.getD 0 [])).bind (beforeEnd? dashes) with
  | none =>
    rw [hlabel] at h
    cases h
  | some label =>
    rw [hlabel] at h
    cases hkind : Kind.ofLabel? label with
    | none =>
      simp only [hkind] at h
      cases h
    | some kind' =>
      simp only [hkind] at h
      by_cases hfooter : l.getD 2 [] ≠ endMark ++ label ++ dashes
      · rw [if_pos hfooter] at h
        cases h
      rw [if_neg hfooter] at h
      by_cases htrailer : l.drop 3 ≠ [[]]
      · rw [if_pos htrailer] at h
        cases h
      rw [if_neg htrailer] at h
      by_cases htag : isTag (l.getD 1 []) = true
      · rw [if_pos htag] at h
        cases h
        have hlast := Decidable.not_not.1 hfooter
        exact ⟨label, rfl, hkind, rfl, htag, hlast, Decidable.not_not.1 htrailer⟩
      · rw [if_neg htag] at h
        cases h

/-- The lines of armour that is accepted are those of the armour that is written. -/
theorem of_ofLines {l : List (List Char)} {kind : Kind} {tag : List Char}
    (h : ofLines l = .ok (kind, tag)) :
    l = [header kind, tag, footer kind, []] ∧ isTag tag = true := by
  obtain ⟨label, hlabel, hkind, hline, htag, hfooter, htrailer⟩ := exists_of_ofLines h
  refine ⟨?_, htag⟩
  have hlast : l.getD 2 [] = footer kind := by
    rw [hfooter, eq_label_of_ofLabel? hkind, footer]
  rw [← eq_header hlabel hkind, ← hline, ← hlast]
  exact eq_of_drop htrailer

/-! ## Opening -/

/-- The text of armour is joined from its lines. -/
theorem intercalate_armour (kind : Kind) (tag : List Char) :
    ['\n'].intercalate [header kind, tag, footer kind, []] = armourText kind (String.ofList tag) := by
  simp only [List.intercalate_cons_cons, List.intercalate_singleton, armourText,
    String.toList_ofList, List.append_assoc, List.cons_append, List.nil_append]

/-- What is found of a byte string that opens. -/
theorem exists_of_decode {s : Bytes} {e : Envelope} (h : decode s = .ok e) :
    ∃ block text tag, splitAtLast? (Utf8.encode ('\n' :: beginMark)) s = some (e.data, block)
      ∧ Utf8.decodeChars (block.drop 1) = .ok text ∧ ofLines (lines text) = .ok (e.kind, tag)
      ∧ e.tag = String.ofList tag := by
  rw [decode] at h
  cases hsplit : splitAtLast? (Utf8.encode ('\n' :: beginMark)) s with
  | none =>
    rw [hsplit] at h
    cases h
  | some p =>
    rw [hsplit] at h
    dsimp only at h
    cases htext : Utf8.decodeChars (p.2.drop 1) with
    | error e =>
      rw [htext] at h
      cases h
    | ok text =>
      rw [htext] at h
      dsimp only at h
      cases hlines : ofLines (lines text) with
      | error e =>
        rw [hlines] at h
        cases h
      | ok q =>
        rw [hlines] at h
        cases h
        exact ⟨p.2, text, q.2, rfl, htext, hlines, rfl⟩

/-- Whatever opens is its document with the armour of its tag. -/
theorem of_decode {s : Bytes} {e : Envelope} (h : decode s = .ok e) :
    isTag e.tag.toList = true ∧ s = e.sealedBytes := by
  obtain ⟨block, text, tag, hsplit, htext, hlines, htag⟩ := exists_of_decode h
  obtain ⟨hpieces, hdigits⟩ := of_ofLines hlines
  obtain ⟨hs, hmark⟩ := eq_append_of_splitAtLast? hsplit
  -- the text is joined from its lines again, and the line end in front of it is the mark's
  have harmour : text = armourText e.kind e.tag := by
    rw [htag, ← intercalate_armour, ← hpieces]
    exact (intercalate_piecesAt '\n' text).symm
  have hblock : block = 0x0A :: block.drop 1 := by
    rw [encode_newline_beginMark] at hmark
    obtain ⟨rest, rfl⟩ := hmark
    rfl
  refine ⟨by rw [htag, String.toList_ofList]; exact hdigits, ?_⟩
  rw [hs, hblock, ← Utf8.encode_of_decodeChars htext, harmour, sealedBytes, encode_newline_cons]

theorem decode_eq_ok_iff {s : Bytes} {e : Envelope} :
    decode s = .ok e ↔ IsTag e.tag ∧ s = e.sealedBytes := by
  rw [← isTag_iff]
  constructor
  · exact of_decode
  · rintro ⟨htag, rfl⟩
    exact decode_sealedBytes htag

/-! ## Sealing and opening -/

/-- A tag has one byte for each digit. -/
theorem length_textBytes_tag {tag : String} (h : IsTag tag) : (textBytes tag).length ≤ mostTag := by
  have hascii : ∀ c ∈ tag.toList, c.val.toNat < 0x80 := fun c hc => (mem_tag (isTag_iff.2 h) hc).1
  rw [textBytes, Utf8.encode_ascii hascii, List.length_map]
  exact h.2.1

/-- A buffer that cannot be reserved is all that can keep a document from being sealed: a buffer that
is there is large enough. -/
theorem encode_eq {e : Envelope} (htag : IsTag e.tag) (hdata : e.data.length ≤ Buffer.mostCapacity) :
    e.encode = if e.data.length + mostTag + armourSize ≤ Buffer.mostCapacity then .ok e.sealedBytes
      else .error (.reserve ⟨e.data.length + mostTag + armourSize⟩) := by
  have hlength := length_textBytes_tag htag
  by_cases hsize : e.data.length + mostTag + armourSize ≤ Buffer.mostCapacity
  · rw [if_pos hsize]
    exact encode_eq_ok hlength hsize
  · have hreserve : Buffer.reserve (e.data.length + mostTag + armourSize)
        = .error ⟨e.data.length + mostTag + armourSize⟩ := by
      rw [Buffer.reserve, if_neg hsize]
    simp only [encode]
    rw [if_neg (Nat.not_lt.2 hlength), if_neg hsize, capacity_eq_ok hdata]
    dsimp only
    rw [hreserve]

end Envelope

/-- **The sealed form of documents is exact.** A document of any bytes is sealed under every tag of 1
to 128 digits; a buffer of more than 2⁶³ - 1 bytes is all that is ever refused. What was sealed under
such a tag opens as it was, and what opens was sealed under such a tag: it is the document with its
armour, byte for byte, and it is what sealing makes of the document again. -/
theorem envelope_codec_exact :
    (∀ e : Envelope, Envelope.IsTag e.tag → e.data.length ≤ Buffer.mostCapacity →
      e.encode = if e.data.length + 224 ≤ Buffer.mostCapacity then .ok e.sealedBytes
        else .error (.reserve ⟨e.data.length + 224⟩))
    ∧ (∀ (e : Envelope) (s : Bytes), Envelope.IsTag e.tag → e.encode = .ok s →
      Envelope.decode s = .ok e)
    ∧ (∀ (s : Bytes) (e : Envelope), Envelope.decode s = .ok e →
      Envelope.IsTag e.tag ∧ s = e.sealedBytes
        ∧ (e.data.length + 224 ≤ Buffer.mostCapacity → e.encode = .ok s))
    ∧ (∀ e : Envelope, Envelope.IsTag e.tag → Envelope.decode e.sealedBytes = .ok e) := by
  refine ⟨?_, ?_, ?_, ?_⟩
  · intro e htag hdata
    exact Envelope.encode_eq htag hdata
  · intro e s htag hencode
    exact Envelope.decode_encode (Envelope.isTag_iff.2 htag) hencode
  · intro s e hdecode
    obtain ⟨htag, hs⟩ := Envelope.decode_eq_ok_iff.1 hdecode
    refine ⟨htag, hs, ?_⟩
    intro hsize
    rw [hs]
    exact Envelope.encode_eq_ok (Envelope.length_textBytes_tag htag) hsize
  · intro e htag
    exact Envelope.decode_eq_ok_iff.2 ⟨htag, rfl⟩

/-- A document that is an armour block with no document in front of it is sealed, opened and sealed
again. -/
theorem envelope_codec_exact_sample :
    let e : Envelope := ⟨Envelope.sealedBytes ⟨[], .mac, "00"⟩, .signature, "aB3"⟩
    Envelope.IsTag e.tag ∧ e.encode = .ok e.sealedBytes ∧ Envelope.decode e.sealedBytes = .ok e
      ∧ ∀ s, Envelope.decode s = .ok e → e.encode = .ok s := by
  intro e
  have htag : Envelope.IsTag e.tag := Envelope.isTag_iff.1 (by decide +kernel)
  have hlength : e.data.length ≤ 1000 := by decide +kernel
  have hmost : 1000 + 224 ≤ Buffer.mostCapacity := by decide
  obtain ⟨hsealing, hopening, hopened, -⟩ := envelope_codec_exact
  have hencode : e.encode = .ok e.sealedBytes := by
    rw [hsealing e htag (by omega), if_pos (by omega)]
  refine ⟨htag, hencode, hopening e _ htag hencode, ?_⟩
  intro s hdecode
  obtain ⟨-, -, hagain⟩ := hopened s e hdecode
  exact hagain (by omega)

end ModelProtection
