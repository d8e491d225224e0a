/-
Sealed documents are opened again.

A sealed document is the document and an armour block behind it
(`eq_of_encode`). Opening gives back exactly what was sealed (`decode_encode`),
whatever bytes the document holds. The document may end with armour blocks of
its own: opening looks for the last mark, and inside a block with a well-formed
tag there is none but the one at its start (`splitAtLast?_armour`).
-/
import ModelProtection.Envelope
import ModelProtection.Proofs.Buffer
import ModelProtection.Proofs.Text.Cutting
import ModelProtection.Proofs.Text.Digits

set_option autoImplicit false

namespace ModelProtection

namespace Envelope

/-! ## The armour block -/

theorem label_eq (kind : Kind) :
    kind.label.toList = ['S', 'I', 'G', 'N', 'A', 'T', 'U', 'R', 'E']
      ∨ kind.label.toList = ['H', 'M', 'A', 'C'] := by
  cases kind
  · exact .inl rfl
  · exact .inr rfl

theorem beginMark_eq : beginMark = ['-', '-', '-', '-', '-', 'B', 'E', 'G', 'I', 'N', ' ', 'M', 'O',
    'D', 'E', 'L', 'S', 'E', 'A', 'L', ' '] := rfl

theorem endMark_eq : endMark = ['-', '-', '-', '-', '-', 'E', 'N', 'D', ' ', 'M', 'O', 'D', 'E', 'L',
    'S', 'E', 'A', 'L', ' '] := rfl

theorem dashes_eq : dashes = ['-', '-', '-', '-', '-'] := rfl

/-- The first line of an armour block. -/
def header (kind : Kind) : List Char := beginMark ++ (kind.label.toList ++ dashes)

/-- The last line of an armour block. -/
def footer (kind : Kind) : List Char := endMark ++ kind.label.toList ++ dashes

/-- The lines of an armour block. -/
def armourText (kind : Kind) (tag : String) : List Char :=
  header kind ++ '\n' :: (tag.toList ++ '\n' :: (footer kind ++ '\n' :: []))

/-- A document with its armour block. -/
def sealedBytes (e : Envelope) : Bytes := e.data ++ Utf8.encode ('\n' :: armourText e.kind e.tag)

/-- The lines of armour but that of the tag are plain: letters, dashes and blanks. -/
theorem mem_header {kind : Kind} {c : Char} (h : c ∈ header kind) : c.val.toNat < 0x80 ∧ c ≠ '\n' := by
  have hall : (header kind).all (fun c => decide (c.val.toNat < 0x80 ∧ c ≠ '\n')) = true := by
    rw [header, beginMark_eq, dashes_eq]
    rcases label_eq kind with hl | hl <;> rw [hl] <;> decide
  exact of_decide_eq_true (List.all_eq_true.1 hall c h)

theorem mem_footer {kind : Kind} {c : Char} (h : c ∈ footer kind) : c.val.toNat < 0x80 ∧ c ≠ '\n' := by
  have hall : (footer kind).all (fun c => decide (c.val.toNat < 0x80 ∧ c ≠ '\n')) = true := by
    rw [footer, endMark_eq, dashes_eq]
    rcases label_eq kind with hl | hl <;> rw [hl] <;> decide
  exact of_decide_eq_true (List.all_eq_true.1 hall c h)

theorem length_header (kind : Kind) : (header kind).length ≤ 35 := by
  rw [header, beginMark_eq, dashes_eq]
  rcases label_eq kind with hl | hl <;> rw [hl] <;> decide

theorem length_footer (kind : Kind) : (footer kind).length ≤ 33 := by
  rw [footer, endMark_eq, dashes_eq]
  rcases label_eq kind with hl | hl <;> rw [hl] <;> decide

theorem flatten_pieces (e : Envelope) : e.pieces.flatten = e.sealedBytes := by
  simp only [pieces, armourPieces, sealedBytes, armourText, header, footer, List.map_cons,
    List.map_nil, List.flatten_cons, List.flatten_nil, Utf8.encode_cons, Utf8.encode_append,
    Utf8.encode_nil, List.append_assoc, List.append_nil]

theorem length_armour (kind : Kind) (tag : String) :
    (Utf8.encode ('\n' :: armourText kind tag)).length ≤ armourSize + (textBytes tag).length := by
  have hbreak : (String.utf8EncodeChar '\n').length = 1 := rfl
  have hheader := length_header kind
  have hfooter := length_footer kind
  have hheader' : (Utf8.encode (header kind)).length = (header kind).length := by
    rw [Utf8.encode_ascii fun c hc => (mem_header hc).1, List.length_map]
  have hfooter' : (Utf8.encode (footer kind)).length = (footer kind).length := by
    rw [Utf8.encode_ascii fun c hc => (mem_footer hc).1, List.length_map]
  simp only [armourText, Utf8.encode_cons, Utf8.encode_append, Utf8.encode_nil, List.length_append,
    List.length_nil, hbreak, hheader', hfooter', armourSize, textBytes]
  omega

/-- The size for sealing is exact, or the program stops: the first sum is within the second. -/
theorem capacity_eq (size : Nat) :
    capacity size = if size + mostTag + armourSize < Size.bound then
        .ok (size + mostTag + armourSize)
      else .error {} := by
  rw [capacity, Size.add_eq]
  by_cases htag : size + mostTag < Size.bound
  · rw [if_pos htag]
    exact Size.add_eq _ _
  · rw [if_neg htag, if_neg (by omega)]
    rfl

/-- Far below the size of a word the size for sealing is exact. -/
theorem capacity_eq_ok {size : Nat} (h : size ≤ Buffer.mostCapacity) :
    capacity size = .ok (size + mostTag + armourSize) := by
  have hword : Buffer.mostCapacity + mostTag + armourSize < Size.bound := by decide
  rw [capacity_eq, if_pos (by omega)]

/-- What comes of sealing, where it does not fail. -/
theorem eq_of_encode {e : Envelope} {bytes : Bytes} (h : e.encode = .ok bytes) :
    bytes = e.sealedBytes := by
  simp only [encode] at h
  split at h
  · cases h
  split at h
  · cases h
  split at h
  · cases h
  rename_i b hreserve
  split at h
  · cases h
  rename_i b' hwrite
  cases h
  rw [Buffer.content_of_writeAll hwrite, Buffer.content_of_reserve hreserve, List.nil_append,
    flatten_pieces]

/-- Sealing succeeds where the tag is short and the size of the document leaves room for armour. -/
theorem encode_eq_ok {e : Envelope} (htag : (textBytes e.tag).length ≤ mostTag)
    (hsize : e.data.length + mostTag + armourSize ≤ Buffer.mostCapacity) :
    e.encode = .ok e.sealedBytes := by
  have hcapacity : capacity e.data.length = .ok (e.data.length + mostTag + armourSize) :=
    capacity_eq_ok (by omega)
  have hfit : e.pieces.flatten.length ≤ e.data.length + mostTag + armourSize := by
    have := length_armour e.kind e.tag
    rw [flatten_pieces, sealedBytes, List.length_append]
    omega
  obtain ⟨b, b', hreserve, hwrite, hcontent⟩ := Buffer.reserve_writeAll hsize hfit
  simp only [encode]
  rw [if_neg (by omega), hcapacity]
  dsimp only
  rw [hreserve]
  dsimp only
  rw [hwrite]
  dsimp only
  rw [hcontent, flatten_pieces]

/-! ## Opening -/

theorem mem_tag {tag : List Char} (h : isTag tag = true) {c : Char} (hc : c ∈ tag) :
    c.val.toNat < 0x80 ∧ c ≠ '\n' ∧ c ≠ '-' := by
  simp only [isTag, Bool.and_eq_true] at h
  have hrange := Hex.digit_range (List.all_eq_true.1 h.1.2 c hc)
  refine ⟨by omega, ?_, ?_⟩
  · rintro rfl
    have : ('\n' : Char).val.toNat = 10 := rfl
    omega
  · rintro rfl
    have : ('-' : Char).val.toNat = 45 := rfl
    omega

theorem newline_notMem {l : List Char} (h : ∀ c ∈ l, c.val.toNat < 0x80 ∧ c ≠ '\n') :
    (0x0A : UInt8) ∉ Utf8.encode l := by
  rw [Utf8.encode_ascii fun c hc => (h c hc).1]
  intro hm
  obtain ⟨c, hc, he⟩ := List.mem_map.1 hm
  refine (h c hc).2 (Char.ext (UInt32.toNat_inj.1 ?_))
  have hbyte := Utf8.toNat_byte (n := c.val.toNat) (by have := (h c hc).1; omega)
  rw [he] at hbyte
  exact hbyte.symm

/-- The mark at the start of an armour block, behind its line end. -/
def markBytes : Bytes := Utf8.encode beginMark

theorem encode_newline_beginMark : Utf8.encode ('\n' :: beginMark) = 0x0A :: markBytes := rfl

theorem encode_newline_cons (l : List Char) :
    Utf8.encode ('\n' :: l) = 0x0A :: Utf8.encode l := rfl

theorem markBytes_eq : markBytes = 0x2D :: 0x2D :: 0x2D :: 0x2D :: 0x2D :: 0x42 ::
    Utf8.encode ['E', 'G', 'I', 'N', ' ', 'M', 'O', 'D', 'E', 'L', 'S', 'E', 'A', 'L', ' '] := by
  rw [markBytes, beginMark_eq]
  rfl

/-- A tag does not start like a mark. -/
theorem markBytes_isPrefixOf_tag {tag : List Char} (h : isTag tag = true) (l : Bytes) :
    markBytes.isPrefixOf (Utf8.encode tag ++ l) = false := by
  cases tag with
  | nil => cases h
  | cons c tag =>
    obtain ⟨hascii, -, hdash⟩ := mem_tag h (List.mem_cons_self)
    have hne : ¬ ((0x2D : UInt8) == UInt8.ofNat c.val.toNat) = true := by
      intro he
      refine hdash (Char.ext (UInt32.toNat_inj.1 ?_))
      have hbyte := Utf8.toNat_byte (n := c.val.toNat) (by omega)
      rw [← eq_of_beq he] at hbyte
      exact hbyte.symm
    rw [Utf8.encode_ascii fun d hd => (mem_tag h hd).1, markBytes_eq, List.map_cons,
      List.cons_append, List.isPrefixOf, Bool.eq_false_iff.2 hne, Bool.false_and]

/-- The last line does not start like a mark. -/
theorem markBytes_isPrefixOf_footer (kind : Kind) (l : Bytes) :
    markBytes.isPrefixOf (Utf8.encode (footer kind) ++ l) = false := by
  rw [markBytes_eq, footer, endMark_eq]
  rfl

/-- Behind the start of an armour block there is no other mark. -/
theorem splitAtLast?_armourText {kind : Kind} {tag : String} (h : isTag tag.toList = true) :
    splitAtLast? (0x0A :: markBytes) (Utf8.encode (armourText kind tag)) = none := by
  rw [armourText, Utf8.encode_append, encode_newline_cons, Utf8.encode_append, encode_newline_cons,
    Utf8.encode_append, encode_newline_cons, Utf8.encode_nil]
  -- a mark starts at a line end, so the search only has to fail behind each of the three
  refine splitAtLast?_append_of_notMem (newline_notMem fun c => mem_header) ?_
  refine splitAtLast?_cons_of_not_isPrefixOf (markBytes_isPrefixOf_tag h _) ?_
  refine splitAtLast?_append_of_notMem
    (newline_notMem fun c hc => ⟨(mem_tag h hc).1, (mem_tag h hc).2.1⟩) ?_
  refine splitAtLast?_cons_of_not_isPrefixOf (markBytes_isPrefixOf_footer kind _) ?_
  refine splitAtLast?_append_of_notMem (newline_notMem fun c => mem_footer) ?_
  exact splitAtLast?_cons_of_not_isPrefixOf (by rw [markBytes_eq]; rfl) rfl

theorem splitAtLast?_sealedBytes {e : Envelope} (h : isTag e.tag.toList = true) :
    splitAtLast? (Utf8.encode ('\n' :: beginMark)) e.sealedBytes
      = some (e.data, 0x0A :: Utf8.encode (armourText e.kind e.tag)) := by
  have hstart : (0x0A :: markBytes).isPrefixOf (0x0A :: Utf8.encode (armourText e.kind e.tag))
      = true := by
    rw [List.isPrefixOf_iff_prefix, armourText, header, List.append_assoc, Utf8.encode_append]
    exact List.cons_prefix_cons.2 ⟨rfl, List.prefix_append _ _⟩
  rw [encode_newline_beginMark, sealedBytes, encode_newline_cons]
  exact splitAtLast?_append e.data hstart (splitAtLast?_armourText h)

theorem lines_armourText {kind : Kind} {tag : String} (h : isTag tag.toList = true) :
    lines (armourText kind tag) = [header kind, tag.toList, footer kind, []] := by
  rw [armourText, lines_cons fun hm => (mem_header hm).2 rfl,
    lines_cons fun hm => (mem_tag h hm).2.1 rfl, lines_cons fun hm => (mem_footer hm).2 rfl]
  rfl

theorem ofLabel?_label (kind : Kind) : Kind.ofLabel? kind.label.toList = some kind := by
  cases kind <;> rfl

theorem ofLines_armour {kind : Kind} {tag : List Char} (h : isTag tag = true) :
    ofLines [header kind, tag, footer kind, []] = .ok (kind, tag) := by
  simp only [ofLines, List.getD_cons_zero, List.getD_cons_succ, header, afterStart?_append,
    Option.bind_some, beforeEnd?_append, ofLabel?_label, footer, List.drop_succ_cons, List.drop_zero,
    h, if_true, ne_eq, not_true_eq_false, if_false]
  rfl

/-- A document that was sealed under a tag is opened, and nothing is lost. -/
theorem decode_sealedBytes {e : Envelope} (h : isTag e.tag.toList = true) :
    decode e.sealedBytes = .ok e := by
  simp only [decode, splitAtLast?_sealedBytes h, List.drop_succ_cons, List.drop_zero,
    Utf8.decodeChars_encode, lines_armourText h, ofLines_armour h, String.ofList_toList, bind,
    Except.bind, pure, Except.pure]

theorem decode_encode {e : Envelope} {bytes : Bytes} (h : isTag e.tag.toList = true)
    (hencode : e.encode = .ok bytes) : decode bytes = .ok e := by
  rw [eq_of_encode hencode, decode_sealedBytes h]

/-- The digits of a byte string of 1 to 64 bytes are a tag. -/
theorem isTag_hex {l : Bytes} (hpos : l ≠ []) (hlength : l.length ≤ 64) :
    isTag (Hex.encode l).toList = true := by
  have hne : Hex.encodeChars l ≠ [] := by
    intro h
    have hdigits := Hex.length_encodeChars l
    have := List.length_pos_iff.2 hpos
    rw [h, List.length_nil] at hdigits
    omega
  simp only [isTag, Hex.encode, String.toList_ofList, Hex.all_isDigit_encodeChars,
    Hex.length_encodeChars, Bool.and_true, Bool.and_eq_true, Bool.not_eq_true', List.isEmpty_eq_false_iff,
    decide_eq_true_eq]
  exact ⟨hne, by rw [mostTag]; omega⟩

end Envelope

end ModelProtection
