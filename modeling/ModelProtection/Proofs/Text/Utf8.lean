/-
Text that is written as bytes is read back.

`Utf8.parts` is the one scan behind all reading, so everything here is a fact
about it: the bytes of a character make one part, whatever follows them
(`parts_utf8EncodeChar`). The two readers then follow by induction on the text.
`decodeChars_encode` is what sealed documents and JSON strings rest on. Conversely
nothing is read but what can be written (`encode_of_decodeChars`), so bytes that
spell a text spell it in one way only.

The scan looks at ranges of first and second bytes that leave out overlong forms
and surrogates. The writer never leaves these ranges because a `Char` is never a
surrogate; `scalar_range` is where that enters.
-/
import ModelProtection.Text.Utf8

set_option autoImplicit false

namespace ModelProtection

namespace Utf8

/-! ## Bytes as numbers -/

theorem toNat_byte {n : Nat} (h : n < 256) : (UInt8.ofNat n).toNat = n :=
  UInt8.toNat_ofNat_of_lt h

/-- A range of bytes is a range of numbers. -/
theorem between_iff {low high b : UInt8} :
    (decide (low ≤ b) && decide (b ≤ high)) = true
      ↔ low.toNat ≤ b.toNat ∧ b.toNat ≤ high.toNat := by
  rw [Bool.and_eq_true, decide_eq_true_eq, decide_eq_true_eq, UInt8.le_iff_toNat_le,
    UInt8.le_iff_toNat_le]

theorem isTail_iff {b : UInt8} : isTail b = true ↔ 0x80 ≤ b.toNat ∧ b.toNat ≤ 0xBF := between_iff

theorem not_le_ascii {a : UInt8} (h : 0x80 ≤ a.toNat) : ¬ a ≤ 0x7F := fun hle => by
  have : a.toNat ≤ 0x7F := UInt8.le_iff_toNat_le.1 hle
  omega

/-! ## One character

A lemma for each number of bytes, in terms of the bytes; the last one puts the
bytes of a character in. -/

theorem parts_one {a : UInt8} (l : Bytes) (ha : a.toNat < 0x80) :
    parts (a :: l) = .character (Char.ofNat a.toNat) :: parts l := by
  have h : a ≤ 0x7F := UInt8.le_iff_toNat_le.2 (show a.toNat ≤ 0x7F by omega)
  rw [parts.eq_def]
  simp only [h, if_true]

theorem parts_two {a b : UInt8} (l : Bytes) (ha : 0xC2 ≤ a.toNat) (ha' : a.toNat ≤ 0xDF)
    (hb : isTail b = true) :
    parts (a :: b :: l)
      = .character (Char.ofNat ((a.toNat - 0xC0) * 64 + tailBits b)) :: parts l := by
  have h₁ : ¬ a ≤ 0x7F := not_le_ascii (by omega)
  have h₂ : (decide (0xC2 ≤ a) && decide (a ≤ 0xDF)) = true := between_iff.2 ⟨ha, ha'⟩
  rw [parts.eq_def]
  simp only [h₁, h₂, hb, if_true, if_false]

theorem parts_three {a b c : UInt8} (l : Bytes) (ha : 0xE0 ≤ a.toNat) (ha' : a.toNat ≤ 0xEF)
    (hb : isSecondOfThree a b = true) (hc : isTail c = true) :
    parts (a :: b :: c :: l)
      = .character (Char.ofNat (((a.toNat - 0xE0) * 64 + tailBits b) * 64 + tailBits c))
        :: parts l := by
  have h₁ : ¬ a ≤ 0x7F := not_le_ascii (by omega)
  have h₂ : ¬ (decide (0xC2 ≤ a) && decide (a ≤ 0xDF)) = true := fun h => by
    have : a.toNat ≤ 0xDF := (between_iff.1 h).2
    omega
  have h₃ : (decide (0xE0 ≤ a) && decide (a ≤ 0xEF)) = true := between_iff.2 ⟨ha, ha'⟩
  rw [parts.eq_def]
  simp only [h₁, h₂, h₃, hb, hc, Bool.false_eq_true, if_true, if_false]

theorem parts_four {a b c d : UInt8} (l : Bytes) (ha : 0xF0 ≤ a.toNat) (ha' : a.toNat ≤ 0xF4)
    (hb : isSecondOfFour a b = true) (hc : isTail c = true) (hd : isTail d = true) :
    parts (a :: b :: c :: d :: l)
      = .character (Char.ofNat
          ((((a.toNat - 0xF0) * 64 + tailBits b) * 64 + tailBits c) * 64 + tailBits d))
        :: parts l := by
  have h₁ : ¬ a ≤ 0x7F := not_le_ascii (by omega)
  have h₂ : ¬ (decide (0xC2 ≤ a) && decide (a ≤ 0xDF)) = true := fun h => by
    have : a.toNat ≤ 0xDF := (between_iff.1 h).2
    omega
  have h₃ : ¬ (decide (0xE0 ≤ a) && decide (a ≤ 0xEF)) = true := fun h => by
    have : a.toNat ≤ 0xEF := (between_iff.1 h).2
    omega
  have h₄ : (decide (0xF0 ≤ a) && decide (a ≤ 0xF4)) = true := between_iff.2 ⟨ha, ha'⟩
  rw [parts.eq_def]
  simp only [h₁, h₂, h₃, h₄, hb, hc, hd, Bool.false_eq_true, if_true, if_false]

/-- A character is a number below or above the surrogates. -/
theorem scalar_range (c : Char) :
    c.val.toNat < 0xD800 ∨ (0xDFFF < c.val.toNat ∧ c.val.toNat < 0x110000) := by
  simpa [UInt32.isValidChar, Nat.isValidChar] using c.valid

theorem isSecondOfThree_of {a b : UInt8} (hb : isTail b = true)
    (hlow : a.toNat = 0xE0 → 0xA0 ≤ b.toNat) (hhigh : a.toNat = 0xED → b.toNat ≤ 0x9F) :
    isSecondOfThree a b = true := by
  have hb' := isTail_iff.1 hb
  unfold isSecondOfThree
  -- behind `0xE0` a low second byte would be an overlong form, behind `0xED` a high one a surrogate
  split
  · rename_i h
    have ha : a.toNat = 0xE0 := by rw [eq_of_beq h]; rfl
    exact between_iff.2 ⟨hlow ha, hb'.2⟩
  · split
    · rename_i h
      have ha : a.toNat = 0xED := by rw [eq_of_beq h]; rfl
      exact between_iff.2 ⟨hb'.1, hhigh ha⟩
    · exact hb

theorem isSecondOfFour_of {a b : UInt8} (hb : isTail b = true)
    (hlow : a.toNat = 0xF0 → 0x90 ≤ b.toNat) (hhigh : a.toNat = 0xF4 → b.toNat ≤ 0x8F) :
    isSecondOfFour a b = true := by
  have hb' := isTail_iff.1 hb
  unfold isSecondOfFour
  -- `0xF0` is the overlong case again; behind `0xF4` a high second byte is past the last character
  split
  · rename_i h
    have ha : a.toNat = 0xF0 := by rw [eq_of_beq h]; rfl
    exact between_iff.2 ⟨hlow ha, hb'.2⟩
  · split
    · rename_i h
      have ha : a.toNat = 0xF4 := by rw [eq_of_beq h]; rfl
      exact between_iff.2 ⟨hb'.1, hhigh ha⟩
    · exact hb

/-- The bytes of a character make one part, whatever follows them. -/
theorem parts_utf8EncodeChar (c : Char) (l : Bytes) :
    parts (String.utf8EncodeChar c ++ l) = .character c :: parts l := by
  have hc := scalar_range c
  have hof : ∀ n, n = c.val.toNat → Char.ofNat n = c := by
    rintro _ rfl
    exact Char.ofNat_toNat c
  simp only [String.utf8EncodeChar]
  -- from here on only the value counts; the character is met again through `hof`
  generalize c.val.toNat = v at *
  have hbyte : ∀ n, (UInt8.ofNat (n % 0x40 + 0x80)).toNat = n % 0x40 + 0x80 := fun n =>
    toNat_byte (by omega)
  -- every continuation byte is `0x80` and six bits of the value
  have htail : ∀ n, isTail (UInt8.ofNat (n % 0x40 + 0x80)) = true := fun n =>
    isTail_iff.2 (by have := hbyte n; omega)
  have hbits : ∀ n, tailBits (UInt8.ofNat (n % 0x40 + 0x80)) = n % 0x40 := fun n => by
    have := hbyte n
    unfold tailBits
    omega
  split
  · have ha : (UInt8.ofNat v).toNat = v := toNat_byte (by omega)
    rw [List.cons_append, parts_one _ (by omega), ha, hof _ rfl, List.nil_append]
  split
  · have ha : (UInt8.ofNat (v / 64 % 0x20 + 0xc0)).toNat = v / 64 + 0xc0 := by
      rw [toNat_byte (by omega)]; omega
    simp only [List.cons_append, List.nil_append]
    rw [parts_two _ (by omega) (by omega) (htail _), ha, hbits, hof _ (by omega)]
  split
  · have ha : (UInt8.ofNat (v / 4096 % 0x10 + 0xe0)).toNat = v / 4096 + 0xe0 := by
      rw [toNat_byte (by omega)]; omega
    have hb := hbyte (v / 64)
    -- both bounds on the second byte come from `hc`: the value is no surrogate
    have hsecond := isSecondOfThree_of (a := UInt8.ofNat (v / 4096 % 0x10 + 0xe0))
      (htail (v / 64)) (by omega) (by omega)
    simp only [List.cons_append, List.nil_append]
    rw [parts_three _ (by omega) (by omega) hsecond (htail _), ha, hbits, hbits,
      hof _ (by omega)]
  · have ha : (UInt8.ofNat (v / 262144 % 0x08 + 0xf0)).toNat = v / 262144 + 0xf0 := by
      rw [toNat_byte (by omega)]; omega
    have hb := hbyte (v / 4096)
    have hsecond := isSecondOfFour_of (a := UInt8.ofNat (v / 262144 % 0x08 + 0xf0))
      (htail (v / 4096)) (by omega) (by omega)
    simp only [List.cons_append, List.nil_append]
    rw [parts_four _ (by omega) (by omega) hsecond (htail _) (htail _), ha, hbits, hbits, hbits,
      hof _ (by omega)]

/-! ## Whole texts -/

theorem parts_encode (l : List Char) : parts (encode l) = l.map .character := by
  induction l with
  | nil => exact parts.eq_1
  | cons c l ih => rw [encode_cons, parts_utf8EncodeChar, ih, List.map_cons]

theorem collect_characters (index : Nat) (l : List Char) :
    collect index (l.map .character) = .ok l := by
  induction l generalizing index with
  | nil => rfl
  | cons c l ih => rw [List.map_cons, collect, ih]; rfl

/-- What was written is read. -/
theorem decodeChars_encode (l : List Char) : decodeChars (encode l) = .ok l := by
  rw [decodeChars, parts_encode, collect_characters]

theorem decode_textBytes (s : String) : decode (textBytes s) = .ok s := by
  rw [decode, textBytes, decodeChars_encode]
  exact congrArg Except.ok (String.ofList_toList)

/-- Characters below 128 are their own bytes. -/
theorem encode_ascii {l : List Char} (h : ∀ c ∈ l, c.val.toNat < 0x80) :
    encode l = l.map fun c => UInt8.ofNat c.val.toNat := by
  induction l with
  | nil => rfl
  | cons c l ih =>
    have hc : c.val.toNat ≤ 0x7f := by have := h c (List.mem_cons_self); omega
    rw [encode_cons, ih fun d hd => h d (List.mem_cons_of_mem _ hd)]
    simp only [String.utf8EncodeChar, hc, if_true, List.map_cons, List.cons_append, List.nil_append]

theorem length_encode_replicate (n : Nat) (c : Char) :
    (encode (List.replicate n c)).length = n * c.utf8Size := by
  induction n with
  | zero => rw [Nat.zero_mul]; rfl
  | succ n ih =>
    rw [List.replicate_succ, encode_cons, List.length_append, String.length_utf8EncodeChar, ih,
      Nat.succ_mul, Nat.add_comm]

/-- A byte of a character is the character itself or at least 128. -/
theorem mem_utf8EncodeChar {c : Char} {b : UInt8} (h : b ∈ String.utf8EncodeChar c) :
    b.toNat = c.val.toNat ∨ 0x80 ≤ b.toNat := by
  -- every byte of a longer form has its highest bit set, leading byte and tail alike
  have hlarge : ∀ n low, n % 256 = n → low = n → 0x80 ≤ n → 0x80 ≤ (UInt8.ofNat low).toNat := by
    rintro n _ hn rfl hlow
    rw [toNat_byte (by omega)]
    exact hlow
  simp only [String.utf8EncodeChar] at h
  split at h
  · rw [List.mem_singleton.1 h]
    exact .inl (toNat_byte (by omega))
  refine .inr ?_
  split at h
  · simp only [List.mem_cons, List.not_mem_nil, or_false] at h
    rcases h with rfl | rfl <;> exact hlarge _ _ (by omega) rfl (by omega)
  split at h
  · simp only [List.mem_cons, List.not_mem_nil, or_false] at h
    rcases h with rfl | rfl | rfl <;> exact hlarge _ _ (by omega) rfl (by omega)
  · simp only [List.mem_cons, List.not_mem_nil, or_false] at h
    rcases h with rfl | rfl | rfl | rfl <;> exact hlarge _ _ (by omega) rfl (by omega)

/-- A text all of whose bytes are below 128 has no longer characters. -/
theorem ascii_of_bytes {l : List Char} (h : ∀ b ∈ encode l, b.toNat < 0x80) :
    ∀ c ∈ l, c.val.toNat < 0x80 := by
  intro c hc
  obtain ⟨b, hb⟩ : ∃ b, b ∈ String.utf8EncodeChar c := by
    apply List.exists_mem_of_length_pos
    rw [String.length_utf8EncodeChar]
    exact c.utf8Size_pos
  have hlow := h b (List.mem_flatMap.2 ⟨c, hc, hb⟩)
  rcases mem_utf8EncodeChar hb with hsame | hhigh
  · rwa [← hsame]
  · omega

/-- A byte that starts no character is shown as a mark of its own. -/
theorem decodeLossy_replicate (n : Nat) :
    decodeLossy (List.replicate n 0xFF) = String.ofList (List.replicate n replacement) := by
  have hparts : parts (List.replicate n 0xFF) = List.replicate n (.malformed 1) := by
    induction n with
    | zero => exact parts.eq_1
    | succ n ih =>
      rw [List.replicate_succ, List.replicate_succ, parts.eq_def, ← ih]
      rfl
  rw [decodeLossy, hparts, List.map_replicate]
  rfl

/-! ## The bytes that are read

The converse: a scan without faults has read the bytes of its characters, since a
reader that takes a form in only takes it in as the writer makes it. -/

theorem toNat_ofNat {n : Nat} (h : n < 0xD800 ∨ (0xDFFF < n ∧ n < 0x110000)) :
    (Char.ofNat n).val.toNat = n := by
  have hvalid : n.isValidChar := h
  rw [Char.ofNat, dif_pos hvalid]
  rfl

theorem byte_eq {n : Nat} {b : UInt8} (h : n = b.toNat) : UInt8.ofNat n = b := by
  rw [h, UInt8.ofNat_toNat]

/-- A second byte continues a character, and behind two first bytes its range is narrower. -/
theorem of_second {x y low high a b : UInt8} (hxy : x ≠ y) (hlow : 0x80 ≤ low.toNat)
    (hhigh : high.toNat ≤ 0xBF)
    (h : (if a == x then decide (low ≤ b) && decide (b ≤ 0xBF)
      else if a == y then decide (0x80 ≤ b) && decide (b ≤ high) else isTail b) = true) :
    isTail b = true ∧ (a = x → low.toNat ≤ b.toNat) ∧ (a = y → b.toNat ≤ high.toNat) := by
  by_cases hx : a = x
  · rw [if_pos (beq_iff_eq.2 hx)] at h
    have hb := between_iff.1 h
    refine ⟨isTail_iff.2 ⟨Nat.le_trans hlow hb.1, hb.2⟩, fun _ => hb.1, ?_⟩
    intro hy
    exact absurd (hx.symm.trans hy) hxy
  rw [if_neg (mt beq_iff_eq.1 hx)] at h
  by_cases hy : a = y
  · rw [if_pos (beq_iff_eq.2 hy)] at h
    have hb := between_iff.1 h
    exact ⟨isTail_iff.2 ⟨hb.1, Nat.le_trans hb.2 hhigh⟩, fun ha => absurd ha hx, fun _ => hb.2⟩
  · rw [if_neg (mt beq_iff_eq.1 hy)] at h
    exact ⟨h, fun ha => absurd ha hx, fun ha => absurd ha hy⟩

theorem utf8EncodeChar_one {a : UInt8} (ha : a.toNat ≤ 0x7F) :
    String.utf8EncodeChar (Char.ofNat a.toNat) = [a] := by
  simp only [String.utf8EncodeChar, toNat_ofNat (n := a.toNat) (by omega)]
  rw [if_pos ha, UInt8.ofNat_toNat]

theorem utf8EncodeChar_two {a b : UInt8} (ha : 0xC2 ≤ a.toNat) (ha' : a.toNat ≤ 0xDF)
    (hb : isTail b = true) :
    String.utf8EncodeChar (Char.ofNat ((a.toNat - 0xC0) * 64 + tailBits b)) = [a, b] := by
  have hb' := isTail_iff.1 hb
  generalize hv : (a.toNat - 0xC0) * 64 + tailBits b = v
  unfold tailBits at hv
  simp only [String.utf8EncodeChar, toNat_ofNat (n := v) (by omega)]
  have h₁ : UInt8.ofNat (v / 64 % 0x20 + 0xc0) = a := byte_eq (by omega)
  have h₂ : UInt8.ofNat (v % 0x40 + 0x80) = b := byte_eq (by omega)
  rw [if_neg (by omega), if_pos (by omega), h₁, h₂]

theorem utf8EncodeChar_three {a b c : UInt8} (ha : 0xE0 ≤ a.toNat) (ha' : a.toNat ≤ 0xEF)
    (hb : isSecondOfThree a b = true) (hc : isTail c = true) :
    String.utf8EncodeChar (Char.ofNat (((a.toNat - 0xE0) * 64 + tailBits b) * 64 + tailBits c))
      = [a, b, c] := by
  obtain ⟨hb', hlow, hhigh⟩ := of_second (by decide) (by decide) (by decide) hb
  rw [← UInt8.toNat_inj] at hlow hhigh
  -- the narrower ranges leave out overlong forms and surrogates, as the writer does
  have hlow' : a.toNat = 0xE0 → 0xA0 ≤ b.toNat := hlow
  have hhigh' : a.toNat = 0xED → b.toNat ≤ 0x9F := hhigh
  have hb'' := isTail_iff.1 hb'
  have hc' := isTail_iff.1 hc
  generalize hv : ((a.toNat - 0xE0) * 64 + tailBits b) * 64 + tailBits c = v
  unfold tailBits at hv
  simp only [String.utf8EncodeChar, toNat_ofNat (n := v) (by omega)]
  have h₁ : UInt8.ofNat (v / 4096 % 0x10 + 0xe0) = a := byte_eq (by omega)
  have h₂ : UInt8.ofNat (v / 64 % 0x40 + 0x80) = b := byte_eq (by omega)
  have h₃ : UInt8.ofNat (v % 0x40 + 0x80) = c := byte_eq (by omega)
  rw [if_neg (by omega), if_neg (by omega), if_pos (by omega), h₁, h₂, h₃]

theorem utf8EncodeChar_four {a b c d : UInt8} (ha : 0xF0 ≤ a.toNat) (ha' : a.toNat ≤ 0xF4)
    (hb : isSecondOfFour a b = true) (hc : isTail c = true) (hd : isTail d = true) :
    String.utf8EncodeChar (Char.ofNat
        ((((a.toNat - 0xF0) * 64 + tailBits b) * 64 + tailBits c) * 64 + tailBits d))
      = [a, b, c, d] := by
  obtain ⟨hb', hlow, hhigh⟩ := of_second (by decide) (by decide) (by decide) hb
  rw [← UInt8.toNat_inj] at hlow hhigh
  have hlow' : a.toNat = 0xF0 → 0x90 ≤ b.toNat := hlow
  have hhigh' : a.toNat = 0xF4 → b.toNat ≤ 0x8F := hhigh
  have hb'' := isTail_iff.1 hb'
  have hc' := isTail_iff.1 hc
  have hd' := isTail_iff.1 hd
  generalize hv : (((a.toNat - 0xF0) * 64 + tailBits b) * 64 + tailBits c) * 64 + tailBits d = v
  unfold tailBits at hv
  simp only [String.utf8EncodeChar, toNat_ofNat (n := v) (by omega)]
  have h₁ : UInt8.ofNat (v / 262144 % 0x08 + 0xf0) = a := byte_eq (by omega)
  have h₂ : UInt8.ofNat (v / 4096 % 0x40 + 0x80) = b := byte_eq (by omega)
  have h₃ : UInt8.ofNat (v / 64 % 0x40 + 0x80) = c := byte_eq (by omega)
  have h₄ : UInt8.ofNat (v % 0x40 + 0x80) = d := byte_eq (by omega)
  rw [if_neg (by omega), if_neg (by omega), if_neg (by omega), h₁, h₂, h₃, h₄]

/-- A fault is not a character. -/
theorem ne_characters {p : Part} (hp : ∀ c, p ≠ .character c) {l : List Part} {cs : List Char} :
    p :: l ≠ cs.map .character := by
  intro h
  cases cs with
  | nil => cases h
  | cons c cs => exact hp c (List.cons.inj h).1

/-- Characters at the start of a scan have the bytes that were scanned. -/
theorem encode_of_parts_cons {c : Char} {bytes l : Bytes} {cs : List Char}
    (hc : String.utf8EncodeChar c = bytes)
    (ih : ∀ {cs : List Char}, parts l = cs.map .character → encode cs = l)
    (h : Part.character c :: parts l = cs.map .character) : encode cs = bytes ++ l := by
  cases cs with
  | nil => cases h
  | cons c' cs =>
    obtain ⟨hhead, htail⟩ := List.cons.inj h
    cases hhead
    rw [encode_cons, hc, ih htail]

theorem encode_of_parts {l : Bytes} {cs : List Char} (h : parts l = cs.map .character) :
    encode cs = l := by
  fun_induction parts l generalizing cs with
  | case1 => 
    rw [List.map_eq_nil_iff.1 h.symm]
    rfl
  | case2 a l ha ih =>
    exact encode_of_parts_cons (utf8EncodeChar_one (UInt8.le_iff_toNat_le.1 ha)) ih h
  | case4 a ha ha₂ b l hb ih =>
    have hrange := between_iff.1 ha₂
    exact encode_of_parts_cons (utf8EncodeChar_two hrange.1 hrange.2 hb) ih h
  | case8 a ha ha₂ ha₃ b hb c l hc ih =>
    have hrange := between_iff.1 ha₃
    exact encode_of_parts_cons (utf8EncodeChar_three hrange.1 hrange.2 hb hc) ih h
  | case14 a ha ha₂ ha₃ ha₄ b hb c hc d l hd ih =>
    have hrange := between_iff.1 ha₄
    exact encode_of_parts_cons (utf8EncodeChar_four hrange.1 hrange.2 hb hc hd) ih h
  | _ => exact absurd h (ne_characters fun _ hp => Part.noConfusion hp)

theorem characters_of_collect {index : Nat} {ps : List Part} {cs : List Char}
    (h : collect index ps = .ok cs) : ps = cs.map .character := by
  induction ps generalizing index cs with
  | nil =>
    cases h
    rfl
  | cons p ps ih =>
    cases p with
    | malformed width => cases h
    | cutShort width => cases h
    | character c =>
      rw [collect] at h
      cases hrest : collect (index + c.utf8Size) ps with
      | error e =>
        rw [hrest] at h
        cases h
      | ok cs' =>
        rw [hrest] at h
        cases h
        rw [List.map_cons, ih hrest]

/-- What is read is what was written. -/
theorem encode_of_decodeChars {l : Bytes} {cs : List Char} (h : decodeChars l = .ok cs) :
    encode cs = l :=
  encode_of_parts (characters_of_collect h)

end Utf8

end ModelProtection
