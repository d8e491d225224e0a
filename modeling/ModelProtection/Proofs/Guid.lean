/-
The texts of GUIDs.

A text is looked at character by character, and its length is counted in bytes. That
the two fit together is because every character that is let through is a single byte,
so the grammar can be stated in bytes alone (`Grammatical`), and characters of more
than one byte are out wherever they stand (`grammatical_iff`).

Of a well-formed text only the digits are read. They determine it: the positions of
the hyphens are fixed, so two well-formed texts with the same digits are the same
(`eq_of_digits_eq`). In lower case the digits are those of the bytes that were read,
which is why the canonical text of a GUID is the text that it was read from, in lower
case.
-/
import ModelProtection.Error.Protect
import ModelProtection.Proofs.Text.Hex

set_option autoImplicit false

namespace ModelProtection

/-! ## Digits -/

/-- The bytes of the digits of either case. -/
def Hex.digitBytes : Bytes := textBytes "0123456789abcdefABCDEF"

theorem Hex.ascii_of_mem_digitBytes : ∀ b ∈ digitBytes, b.toNat < 0x80 := by
  have htable : digitBytes.all (fun b => b.toNat < 0x80) = true := by decide
  intro b hb
  exact of_decide_eq_true (List.all_eq_true.1 htable b hb)

theorem Hex.mem_digitBytes_iff {c : Char} (hc : c.val.toNat < 0x80) :
    UInt8.ofNat c.val.toNat ∈ digitBytes ↔ isDigit c = true := by
  have htable : ∀ k < 0x80, UInt8.ofNat k ∈ digitBytes ↔ isDigit (Char.ofNat k) = true := by
    decide +kernel
  have hk := htable c.val.toNat hc
  rwa [show Char.ofNat c.val.toNat = c from Char.ofNat_toNat c] at hk

theorem Hex.isDigit_toLower {c : Char} (h : isDigit c = true) : isDigit c.toLower = true := by
  obtain ⟨n, hn, -, hlower⟩ := digitValue?_of_isDigit h
  rw [hlower]
  exact isDigit_digitChar n hn

theorem Hex.ne_hyphen_of_isDigit {c : Char} (h : isDigit c = true) : c ≠ '-' := by
  rintro rfl
  cases h

namespace Guid

variable {s : String} {g g' : Guid} {l l' : List Char} {i : Nat}

/-! ## Well-formed texts

Every statement is about a part of a text that starts at position `i`, because that is
what the scan moves on. -/

/-- A character in its place is a single byte, so that the next one stands one offset on. -/
theorem wellFormed_cons {c : Char} :
    wellFormed i (c :: l) = true
      ↔ (if isHyphenPosition i then c = '-' else Hex.isDigit c = true) ∧ wellFormed (i + 1) l = true := by
  rw [wellFormed, Bool.and_eq_true, ← beq_iff_eq (a := c), ← apply_ite (· = true)]
  refine and_congr_right fun hc => ?_
  have hascii : c.val.toNat < 0x80 := by
    split at hc
    · rw [eq_of_beq hc]
      decide
    · exact Hex.isDigit_ascii hc
  rw [Char.utf8Size_eq_one_iff.2 (UInt32.le_iff_toNat_le.2 (Nat.le_of_lt_succ hascii))]

/-- What the scan looks at is each character with its position. -/
theorem wellFormed_iff :
    wellFormed i l = true ↔ ∀ k c, l[k]? = some c →
      if isHyphenPosition (i + k) then c = '-' else Hex.isDigit c = true := by
  induction l generalizing i with
  | nil => exact iff_of_true rfl nofun
  | cons a l ih =>
    rw [wellFormed_cons, ih]
    constructor
    · rintro ⟨ha, hl⟩ k c hk
      cases k with
      | zero =>
        cases hk
        exact ha
      | succ k =>
        have hc := hl k c hk
        rwa [Nat.add_assoc, Nat.add_comm 1] at hc
    · intro h
      refine ⟨h 0 a rfl, ?_⟩
      intro k c hk
      have hc := h (k + 1) c hk
      rwa [Nat.add_comm k, ← Nat.add_assoc] at hc

theorem mem_of_wellFormed (h : wellFormed i l = true) :
    ∀ c ∈ l, c = '-' ∨ Hex.isDigit c = true := by
  intro c hc
  obtain ⟨k, hk⟩ := List.getElem?_of_mem hc
  have hplaced := wellFormed_iff.1 h k c hk
  split at hplaced
  · exact .inl hplaced
  · exact .inr hplaced

theorem ascii_of_wellFormed (h : wellFormed i l = true) : ∀ c ∈ l, c.val.toNat < 0x80 := by
  intro c hc
  rcases mem_of_wellFormed h c hc with rfl | hdigit
  · decide
  · exact Hex.isDigit_ascii hdigit

theorem wellFormed_append :
    wellFormed i (l ++ l') = true
      ↔ wellFormed i l = true ∧ wellFormed (i + l.length) l' = true := by
  induction l generalizing i with
  | nil => exact (and_iff_right rfl).symm
  | cons c l ih =>
    rw [List.cons_append, wellFormed_cons, wellFormed_cons, ih, and_assoc, List.length_cons,
      Nat.add_assoc, Nat.add_comm 1]

/-- Between two hyphens stand digits. -/
theorem wellFormed_of_digits (hplain : ∀ k < l.length, isHyphenPosition (i + k) = false)
    (hdigits : ∀ c ∈ l, Hex.isDigit c = true) : wellFormed i l = true := by
  rw [wellFormed_iff]
  intro k c hk
  obtain ⟨hlt, rfl⟩ := List.getElem?_eq_some_iff.1 hk
  rw [hplain k hlt, if_neg Bool.false_ne_true]
  exact hdigits _ (List.getElem_mem hlt)

theorem wellFormed_map_toLower (h : wellFormed i l = true) :
    wellFormed i (l.map Char.toLower) = true := by
  rw [wellFormed_iff] at h ⊢
  intro k c hk
  rw [List.getElem?_map] at hk
  obtain ⟨d, hd, rfl⟩ := Option.map_eq_some_iff.1 hk
  have hplaced := h k d hd
  split
  · rename_i hhyphen
    rw [if_pos hhyphen] at hplaced
    rw [hplaced]
    rfl
  · rename_i hplain
    rw [if_neg hplain] at hplaced
    exact Hex.isDigit_toLower hplaced

/-! ## The digits of a text -/

/-- The characters of a text without its hyphens. -/
def digits (l : List Char) : List Char := l.filter (· ≠ '-')

theorem digits_hyphen_cons : digits ('-' :: l) = digits l := List.filter_cons_of_neg (by decide)

theorem digits_cons {c : Char} (h : Hex.isDigit c = true) : digits (c :: l) = c :: digits l :=
  List.filter_cons_of_pos (decide_eq_true (Hex.ne_hyphen_of_isDigit h))

theorem isDigit_of_mem_digits (h : wellFormed i l = true) : ∀ c ∈ digits l, Hex.isDigit c = true := by
  intro c hc
  obtain ⟨hmem, hne⟩ := List.mem_filter.1 hc
  rcases mem_of_wellFormed h c hmem with heq | hdigit
  · exact absurd heq (of_decide_eq_true hne)
  · exact hdigit

/-- There are as many digits as there are positions for them. -/
theorem length_digits (h : wellFormed i l = true) :
    (digits l).length = ((List.range' i l.length).filter fun k => !isHyphenPosition k).length := by
  induction l generalizing i with
  | nil => rfl
  | cons c l ih =>
    obtain ⟨hc, hl⟩ := wellFormed_cons.1 h
    rw [List.length_cons, List.range'_succ]
    by_cases hhyphen : isHyphenPosition i = true
    · rw [if_pos hhyphen] at hc
      rw [hc, digits_hyphen_cons, List.filter_cons_of_neg (by simp [hhyphen]), ih hl]
    · rw [if_neg hhyphen] at hc
      rw [digits_cons hc, List.filter_cons_of_pos (by simp [hhyphen]), List.length_cons,
        List.length_cons, ih hl]

/-- A well-formed text is known by its digits. -/
theorem eq_of_digits_eq (h : wellFormed i l = true) (h' : wellFormed i l' = true)
    (hlength : l.length = l'.length) (hdigits : digits l = digits l') : l = l' := by
  -- side by side: at each position both have a hyphen or both a digit
  induction l generalizing l' i with
  | nil => exact (List.eq_nil_of_length_eq_zero hlength.symm).symm
  | cons c l ih =>
    obtain ⟨c', l', rfl⟩ := List.exists_cons_of_length_eq_add_one hlength.symm
    obtain ⟨hc, hl⟩ := wellFormed_cons.1 h
    obtain ⟨hc', hl'⟩ := wellFormed_cons.1 h'
    have hrest := Nat.succ.inj hlength
    by_cases hhyphen : isHyphenPosition i = true
    · rw [if_pos hhyphen] at hc hc'
      rw [hc, hc', digits_hyphen_cons, digits_hyphen_cons] at hdigits
      rw [hc, hc', ih hl hl' hrest hdigits]
    · rw [if_neg hhyphen] at hc hc'
      rw [digits_cons hc, digits_cons hc'] at hdigits
      obtain ⟨hsame, hdigits⟩ := List.cons.inj hdigits
      rw [hsame, ih hl hl' hrest hdigits]

theorem digits_map_toLower (h : wellFormed i l = true) :
    digits (l.map Char.toLower) = (digits l).map Char.toLower := by
  rw [digits, List.filter_map, digits]
  congr 1
  refine List.filter_congr fun c hc => ?_
  rcases mem_of_wellFormed h c hc with rfl | hdigit
  · rfl
  · have hlower := Hex.ne_hyphen_of_isDigit (Hex.isDigit_toLower hdigit)
    rw [Function.comp_apply, decide_eq_true hlower,
      decide_eq_true (Hex.ne_hyphen_of_isDigit hdigit)]

/-! ## The canonical text -/

theorem length_canonicalChars (g : Guid) : g.canonicalChars.length = textLength := by
  have hdigits : (Hex.encodeChars g.octets.toList).length = 32 := by
    rw [Hex.length_encodeChars, g.octets.length_toList]
  simp only [canonicalChars, List.length_append, List.length_cons, List.length_take,
    List.length_drop, hdigits]
  rfl

/-- The characters of a GUID without its hyphens are its digits. -/
theorem digits_canonicalChars (g : Guid) :
    digits g.canonicalChars = Hex.encodeChars g.octets.toList := by
  have hplain : ∀ c ∈ Hex.encodeChars g.octets.toList, c ≠ '-' := fun c hc =>
    Hex.ne_hyphen_of_isDigit (List.all_eq_true.1 (Hex.all_isDigit_encodeChars _) c hc)
  unfold digits canonicalChars
  generalize Hex.encodeChars g.octets.toList = digits at hplain ⊢
  have hself : ∀ l : List Char, (∀ c ∈ l, c ∈ digits) → l.filter (· ≠ '-') = l :=
    fun l hl => List.filter_eq_self.2 fun c hc => decide_eq_true (hplain c (hl c hc))
  have hhyphen : ∀ l : List Char, ('-' :: l).filter (· ≠ '-') = l.filter (· ≠ '-') :=
    fun l => List.filter_cons_of_neg (by decide)
  have hfirst := hself (digits.take 8) fun _ => List.mem_of_mem_take
  have hgroup : ∀ i, ((digits.drop i).take 4).filter (· ≠ '-') = (digits.drop i).take 4 :=
    fun i => hself _ fun _ hc => List.mem_of_mem_drop (List.mem_of_mem_take hc)
  have hlast := hself (digits.drop 20) fun _ => List.mem_of_mem_drop
  -- the groups follow each other without a gap
  have hjoin : ∀ i, (digits.drop i).take 4 ++ digits.drop (i + 4) = digits.drop i := by
    intro i
    rw [← List.drop_drop, List.take_append_drop]
  simp only [List.filter_append, List.append_assoc, hhyphen, hfirst, hgroup, hlast]
  rw [hjoin 16, hjoin 12, hjoin 8, List.take_append_drop]

theorem canonical_injective (h : g.canonical = g'.canonical) : g = g' := by
  have hdigits := congrArg digits (String.ofList_injective h)
  rw [digits_canonicalChars, digits_canonicalChars] at hdigits
  have hoctets := Octets.ext_toList (Hex.encodeChars_injective hdigits)
  cases g
  cases g'
  exact congrArg Guid.mk hoctets

theorem wellFormed_canonicalChars (g : Guid) : wellFormed 0 g.canonicalChars = true := by
  have hlength : (Hex.encodeChars g.octets.toList).length = 32 := by
    rw [Hex.length_encodeChars, g.octets.length_toList]
  have hdigit := List.all_eq_true.1 (Hex.all_isDigit_encodeChars g.octets.toList)
  unfold canonicalChars
  generalize Hex.encodeChars g.octets.toList = digits at hlength hdigit ⊢
  have hfirst : wellFormed 0 (digits.take 8) = true := by
    apply wellFormed_of_digits
    · rw [List.length_take, hlength]
      decide
    · exact fun c hc => hdigit c (List.mem_of_mem_take hc)
  have hgroup : ∀ i start, start + 4 ≤ 32 → (∀ k < 4, isHyphenPosition (i + k) = false) →
      wellFormed i ((digits.drop start).take 4) = true := by
    intro i start hstart hplain
    apply wellFormed_of_digits
    · rw [List.length_take, List.length_drop, hlength, Nat.min_eq_left (by omega)]
      exact hplain
    · exact fun c hc => hdigit c (List.mem_of_mem_drop (List.mem_of_mem_take hc))
  have hlast : wellFormed 24 (digits.drop 20) = true := by
    apply wellFormed_of_digits
    · rw [List.length_drop, hlength]
      decide
    · exact fun c hc => hdigit c (List.mem_of_mem_drop hc)
  -- each part starts where the lengths of those before it put it
  simp only [wellFormed_append, wellFormed_cons, List.length_append, List.length_cons,
    List.length_take, List.length_drop, hlength]
  refine ⟨⟨⟨⟨hfirst, by decide, ?_⟩, by decide, ?_⟩, by decide, ?_⟩, by decide, hlast⟩
  · exact hgroup 9 8 (by decide) (by decide)
  · exact hgroup 14 12 (by decide) (by decide)
  · exact hgroup 19 16 (by decide) (by decide)

theorem canonicalChars_map_toLower (g : Guid) :
    g.canonicalChars.map Char.toLower = g.canonicalChars := by
  have hform := wellFormed_canonicalChars g
  refine eq_of_digits_eq (wellFormed_map_toLower hform) hform (List.length_map _) ?_
  rw [digits_map_toLower hform, digits_canonicalChars, ← String.toList_ofList (l := Hex.encodeChars _)]
  exact (Hex.eq_encode_iff.1 rfl).2

/-! ## Reading -/

/-- The grammar of the texts of GUIDs, in bytes. -/
structure Grammatical (s : String) : Prop where
  length_eq : (textBytes s).length = 36
  hyphen : ∀ i ∈ [8, 13, 18, 23], (textBytes s)[i]? = some 0x2D
  digit : ∀ i < 36, i ∉ [8, 13, 18, 23] → ∃ b ∈ Hex.digitBytes, (textBytes s)[i]? = some b

theorem isHyphenPosition_iff : isHyphenPosition i = true ↔ i ∈ [8, 13, 18, 23] := by
  simp [isHyphenPosition, or_assoc]

/-- A grammatical text has no byte that could belong to a longer character. -/
theorem Grammatical.ascii (h : Grammatical s) : ∀ c ∈ s.toList, c.val.toNat < 0x80 := by
  apply Utf8.ascii_of_bytes
  intro b hb
  obtain ⟨i, hi⟩ := List.getElem?_of_mem hb
  have hb' : (textBytes s)[i]? = some b := hi
  have hlt : i < 36 := by
    rw [← h.length_eq]
    exact (List.getElem?_eq_some_iff.1 hb').1
  by_cases hplace : i ∈ [8, 13, 18, 23]
  · rw [h.hyphen i hplace] at hb'
    cases hb'
    decide
  · obtain ⟨d, hd, hsame⟩ := h.digit i hlt hplace
    obtain rfl : d = b := Option.some.inj (hsame.symm.trans hb')
    exact Hex.ascii_of_mem_digitBytes d hd

theorem getElem?_textBytes (h : ∀ c ∈ s.toList, c.val.toNat < 0x80) (i : Nat) :
    (textBytes s)[i]? = s.toList[i]?.map fun c => UInt8.ofNat c.val.toNat := by
  rw [textBytes, Utf8.encode_ascii h, List.getElem?_map]

theorem length_toList (h : ∀ c ∈ s.toList, c.val.toNat < 0x80) :
    s.toList.length = (textBytes s).length := by
  rw [textBytes, Utf8.encode_ascii h, List.length_map]

theorem eq_hyphen_of_byte {c : Char} (hc : c.val.toNat < 0x80)
    (h : UInt8.ofNat c.val.toNat = 0x2D) : c = '-' := by
  have hnat := congrArg UInt8.toNat h
  rw [Utf8.toNat_byte (by omega)] at hnat
  exact Char.ext (UInt32.toNat_inj.1 hnat)

theorem Grammatical.wellFormed (h : Grammatical s) : wellFormed 0 s.toList = true := by
  rw [wellFormed_iff]
  intro k c hk
  have hc := h.ascii c (List.mem_of_getElem? hk)
  have hbyte := getElem?_textBytes h.ascii k
  rw [hk, Option.map_some] at hbyte
  rw [Nat.zero_add]
  by_cases hplace : isHyphenPosition k = true
  · rw [if_pos hplace]
    rw [h.hyphen k (isHyphenPosition_iff.1 hplace)] at hbyte
    exact eq_hyphen_of_byte hc (Option.some.inj hbyte).symm
  · rw [if_neg hplace]
    have hlt : k < 36 := by
      rw [← h.length_eq]
      exact (List.getElem?_eq_some_iff.1 hbyte).1
    obtain ⟨b, hb, hsame⟩ := h.digit k hlt (mt isHyphenPosition_iff.2 hplace)
    rw [hsame] at hbyte
    rw [Option.some.inj hbyte] at hb
    exact (Hex.mem_digitBytes_iff hc).1 hb

/-- The grammar is what the length and the scan ask for. -/
theorem grammatical_iff :
    Grammatical s ↔ (textBytes s).length = textLength ∧ wellFormed 0 s.toList = true := by
  constructor
  · intro h
    exact ⟨h.length_eq, h.wellFormed⟩
  · rintro ⟨hlength, hform⟩
    have hascii := ascii_of_wellFormed hform
    have hplaced := wellFormed_iff.1 hform
    have hsome : ∀ i < 36, ∃ c, s.toList[i]? = some c := by
      intro i hi
      have hlt : i < s.toList.length := by
        rw [length_toList hascii, hlength]
        exact hi
      exact ⟨_, List.getElem?_eq_getElem hlt⟩
    refine ⟨hlength, ?_, ?_⟩
    · intro i hi
      have htable : ∀ k ∈ [8, 13, 18, 23], k < 36 := by decide
      obtain ⟨c, hc⟩ := hsome i (htable i hi)
      have hplace := hplaced i c hc
      rw [Nat.zero_add, if_pos (isHyphenPosition_iff.2 hi)] at hplace
      rw [getElem?_textBytes hascii, hc, hplace]
      rfl
    · intro i hi hplain
      obtain ⟨c, hc⟩ := hsome i hi
      have hplace := hplaced i c hc
      rw [Nat.zero_add, if_neg (mt isHyphenPosition_iff.1 hplain)] at hplace
      refine ⟨_, (Hex.mem_digitBytes_iff (Hex.isDigit_ascii hplace)).2 hplace, ?_⟩
      rw [getElem?_textBytes hascii, hc]
      rfl

/-- A grammatical text is read, and its digits spell what was read. -/
theorem Grammatical.exists_parse (h : Grammatical s) :
    ∃ g, parse s = .ok g ∧ Hex.Spells (digits s.toList) g.octets.toList := by
  obtain ⟨hlength, hform⟩ := grammatical_iff.1 h
  have hchars : s.toList.length = 36 := (length_toList h.ascii).trans hlength
  have hpairs : (digits s.toList).length = 2 * 16 := by
    rw [length_digits hform, hchars]
    decide
  have hdigit := isDigit_of_mem_digits hform
  obtain ⟨l, -, hspells⟩ := Hex.exists_decodePairs 0 hpairs hdigit
  have hl : l.length = 16 := by
    have := hspells.length_eq
    omega
  have hspells' : Hex.Spells (String.ofList (digits s.toList)).toList (⟨l, hl⟩ : Octets 16).toList := by
    rwa [String.toList_ofList]
  have hread := (Hex.decodeSized_eq_ok_iff (by rwa [String.toList_ofList])).2 hspells'
  rw [textBytes_ofList, digits] at hread
  refine ⟨⟨⟨l, hl⟩⟩, ?_, hspells⟩
  simp only [parse, hlength, hform, hread, ne_eq, not_true_eq_false, if_false, if_true]

/-- Any other text is refused, for its length or for its form. -/
theorem parse_eq_error (h : ¬ Grammatical s) :
    parse s = .error
      (if (textBytes s).length = textLength then .malformed s else .wrongLength (textBytes s).length) := by
  rw [grammatical_iff] at h
  unfold parse
  dsimp only
  by_cases hlength : (textBytes s).length = textLength
  · rw [if_neg (not_not_intro hlength), if_neg fun hform => h ⟨hlength, hform⟩, if_pos hlength]
  · rw [if_pos hlength, if_neg hlength]

theorem grammatical_of_parse (h : parse s = .ok g) : Grammatical s := by
  refine Classical.byContradiction fun hnot => ?_
  rw [parse_eq_error hnot] at h
  cases h

theorem toList_toLower (s : String) : s.toLower.toList = s.toList.map Char.toLower :=
  String.toList_map

/-- What was read has the text that it was read from, in lower case. -/
theorem canonical_of_parse (h : parse s = .ok g) : g.canonical = s.toLower := by
  have hgrammatical := grammatical_of_parse h
  obtain ⟨g', hread, hspells⟩ := hgrammatical.exists_parse
  obtain rfl : g' = g := Except.ok.inj (hread.symm.trans h)
  obtain ⟨hlength, hform⟩ := grammatical_iff.1 hgrammatical
  have hsame : s.toList.map Char.toLower = g'.canonicalChars := by
    refine eq_of_digits_eq (wellFormed_map_toLower hform) (wellFormed_canonicalChars g') ?_ ?_
    · rw [List.length_map, length_toList hgrammatical.ascii, hlength, length_canonicalChars]
    · rw [digits_map_toLower hform, hspells.lower_eq, digits_canonicalChars]
  apply String.toList_inj.1
  rw [toList_toLower, hsame, canonical, String.toList_ofList]

theorem parse_canonical (g : Guid) : parse g.canonical = .ok g := by
  have hchars : g.canonical.toList = g.canonicalChars := String.toList_ofList
  have hform := wellFormed_canonicalChars g
  have hascii : ∀ c ∈ g.canonical.toList, c.val.toNat < 0x80 := by
    rw [hchars]
    exact ascii_of_wellFormed hform
  have hlength : (textBytes g.canonical).length = textLength := by
    rw [← length_toList hascii, hchars, length_canonicalChars]
  obtain ⟨g', hread, -⟩ := (grammatical_iff.2 ⟨hlength, by rw [hchars]; exact hform⟩).exists_parse
  -- the canonical text is in lower case already
  have hlower : g.canonical.toLower.toList = g.canonical.toList := by
    rw [toList_toLower, hchars, canonicalChars_map_toLower]
  have hsame : g'.canonical = g.canonical :=
    (canonical_of_parse hread).trans (String.toList_inj.1 hlower)
  exact hread.trans (congrArg Except.ok (canonical_injective hsame))

theorem eq_iff_of_parse {s' : String} (h : parse s = .ok g) (h' : parse s' = .ok g') :
    g = g' ↔ s.toLower = s'.toLower := by
  rw [← canonical_of_parse h, ← canonical_of_parse h']
  exact ⟨congrArg canonical, canonical_injective⟩

end Guid

/-- **The texts of GUIDs are those of one grammar, and nothing is lost in reading them.** A text is read
if and only if it has 36 bytes, hyphens at the offsets 8, 13, 18 and 23 and a hexadecimal digit at every
other. Any other text is a wrong parameter. The canonical text of what was read is the text itself in
lower case, two texts are read as the same GUID if and only if they differ in case alone, and the
canonical text of any GUID is read as that GUID. -/
theorem guid_text_exact (s : String) :
    ((∃ g, Guid.parse s = .ok g) ↔ Guid.Grammatical s)
      ∧ (¬ Guid.Grammatical s → ∃ e, Guid.parse s = .error e
        ∧ (ProtectError.parameter (.guid e)).errorClass = .parameter
        ∧ (ProtectError.parameter (.guid e)).message
          = if (textBytes s).length = 36 then "invalid parameter: malformed GUID: " ++ Quoted.text s
            else s!"invalid parameter: GUID must be 36 characters, got {(textBytes s).length}")
      ∧ (∀ g, Guid.parse s = .ok g → g.canonical = s.toLower)
      ∧ (∀ s' g g', Guid.parse s = .ok g → Guid.parse s' = .ok g' → (g = g' ↔ s.toLower = s'.toLower))
      ∧ ∀ g : Guid, Guid.parse g.canonical = .ok g := by
  refine ⟨?_, ?_, fun g => Guid.canonical_of_parse, fun s' g g' => Guid.eq_iff_of_parse,
    Guid.parse_canonical⟩
  · constructor
    · rintro ⟨g, hread⟩
      exact Guid.grammatical_of_parse hread
    · intro h
      obtain ⟨g, hread, -⟩ := h.exists_parse
      exact ⟨g, hread⟩
  · intro h
    refine ⟨_, Guid.parse_eq_error h, rfl, ?_⟩
    by_cases hlength : (textBytes s).length = 36
    · rw [if_pos (c := _ = Guid.textLength) hlength, if_pos hlength]
      rfl
    · rw [if_neg (c := _ = Guid.textLength) hlength, if_neg hlength]
      rfl

/-- A character of two bytes is refused although the length is right, and capitals are the same GUID. -/
theorem guid_text_exact_of_mixed_case :
    (∃ g, Guid.parse "50934A64-5d1b-4655-BCB4-80080FCB8858" = .ok g
      ∧ g.canonical = "50934a64-5d1b-4655-bcb4-80080fcb8858"
      ∧ Guid.parse "50934a64-5d1b-4655-bcb4-80080fcb8858" = .ok g)
    ∧ (textBytes "50934a64-5d1b-4655-bcb4-80080fcb88é").length = 36
    ∧ ¬ ∃ g, Guid.parse "50934a64-5d1b-4655-bcb4-80080fcb88é" = .ok g := by
  have hmixed : Guid.Grammatical "50934A64-5d1b-4655-BCB4-80080FCB8858" :=
    ⟨by decide, by decide, by decide⟩
  obtain ⟨hread, -, hcanonical, -, hagain⟩ := guid_text_exact "50934A64-5d1b-4655-BCB4-80080FCB8858"
  obtain ⟨g, hg⟩ := hread.2 hmixed
  have hlower : g.canonical = "50934a64-5d1b-4655-bcb4-80080fcb8858" := by
    rw [hcanonical g hg, ← String.toList_inj, Guid.toList_toLower]
    decide
  refine ⟨⟨g, hg, hlower, ?_⟩, by decide, ?_⟩
  · rw [← hlower]
    exact hagain g
  · rw [(guid_text_exact "50934a64-5d1b-4655-bcb4-80080fcb88é").1]
    intro h
    exact absurd (h.digit 34 (by decide) (by decide)) (by decide)

end ModelProtection
