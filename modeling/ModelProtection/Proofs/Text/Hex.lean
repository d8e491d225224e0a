/-
Hexadecimal digits of either case.

Writing is lower case and reading takes either case, so a byte string has many
spellings. They differ in the case of their digits and in nothing else: a text of
digits in pairs is always read, and in lower case it is what is written for the
bytes that were read (`exists_decodePairs`). The rest is a comparison of texts in
lower case, of which there is one for each byte string (`encodeChars_injective`).
Nothing else is read, since a byte of any other character has no value as a digit
(`decode_eq_ok_iff`).
-/
import ModelProtection.Proofs.Text.Digits

set_option autoImplicit false

namespace ModelProtection

namespace Hex

/-- A text of digits of either case that spells a byte string. -/
structure Spells (text : List Char) (l : Bytes) : Prop where
  digits : ∀ c ∈ text, isDigit c = true
  lower_eq : text.map Char.toLower = encodeChars l

theorem Spells.length_eq {text : List Char} {l : Bytes} (h : Spells text l) :
    text.length = 2 * l.length := by
  rw [← length_encodeChars, ← h.lower_eq, List.length_map]

theorem encodeChars_injective {l l' : Bytes} (h : encodeChars l = encodeChars l') : l = l' := by
  have hread := decodePairs_encodeChars 0 l
  rw [h, decodePairs_encodeChars] at hread
  exact (Except.ok.inj hread).symm

theorem isDigit_ascii {c : Char} (h : isDigit c = true) : c.val.toNat < 0x80 :=
  Nat.lt_of_le_of_lt (digit_range h).2 (by decide)

/-- A digit has a value, and in lower case it is the digit for that value. -/
theorem digitValue?_of_isDigit {c : Char} (h : isDigit c = true) :
    ∃ n < 16, digitValue? (UInt8.ofNat c.val.toNat) = some n ∧ c.toLower = digitChar n := by
  have htable : ∀ k < 128, isDigit (Char.ofNat k) = true →
      ∃ n < 16, digitValue? (UInt8.ofNat k) = some n ∧ (Char.ofNat k).toLower = digitChar n := by
    decide +kernel
  have hc := htable c.val.toNat (isDigit_ascii h)
  rw [show Char.ofNat c.val.toNat = c from Char.ofNat_toNat c] at hc
  exact hc h

/-- The two digits of a byte that is made of two values. -/
theorem ofByte_pair {high low : Nat} (hhigh : high < 16) (hlow : low < 16) :
    ofByte (UInt8.ofNat (high * 16 + low)) = [digitChar high, digitChar low] := by
  have hbyte : (UInt8.ofNat (high * 16 + low)).toNat = high * 16 + low := Utf8.toNat_byte (by omega)
  rw [ofByte, hbyte, show (high * 16 + low) / 16 = high by omega,
    show (high * 16 + low) % 16 = low by omega]

/-- A text of digits in pairs is read. The induction is on the number of pairs. -/
theorem exists_decodePairs (position : Nat) {pairs : Nat} {text : List Char}
    (hlength : text.length = 2 * pairs) (h : ∀ c ∈ text, isDigit c = true) :
    ∃ l, decodePairs position (Utf8.encode text) = .ok l ∧ Spells text l := by
  induction pairs generalizing position text with
  | zero =>
    obtain rfl := List.eq_nil_of_length_eq_zero hlength
    exact ⟨[], rfl, nofun, rfl⟩
  | succ pairs ih =>
    obtain ⟨a, text, rfl⟩ := List.exists_cons_of_length_eq_add_one hlength
    obtain ⟨b, text, rfl⟩ := List.exists_cons_of_length_eq_add_one (Nat.succ.inj hlength)
    obtain ⟨ha, hrest⟩ := List.forall_mem_cons.1 h
    obtain ⟨hb, hrest⟩ := List.forall_mem_cons.1 hrest
    obtain ⟨high, hhigh, hvalue, hlower⟩ := digitValue?_of_isDigit ha
    obtain ⟨low, hlow, hvalue', hlower'⟩ := digitValue?_of_isDigit hb
    obtain ⟨l, hread, hspells⟩ := ih (position + 2) (Nat.succ.inj (Nat.succ.inj hlength)) hrest
    refine ⟨UInt8.ofNat (high * 16 + low) :: l, ?_, h, ?_⟩
    · rw [Utf8.encode_ascii fun c hc => isDigit_ascii (hrest c hc)] at hread
      rw [Utf8.encode_ascii fun c hc => isDigit_ascii (h c hc)]
      simp only [List.map_cons, decodePairs, digitAt, hvalue, hvalue', hread, bind, Except.bind,
        pure, Except.pure]
    · rw [List.map_cons, List.map_cons, hlower, hlower', hspells.lower_eq, encodeChars,
        encodeChars, List.flatMap_cons, ofByte_pair hhigh hlow]
      rfl

/-- A byte that is taken for a digit is the character of a digit. -/
theorem isDigit_of_digitValue? {b : UInt8} (h : digitValue? b ≠ none) :
    b.toNat < 0x80 ∧ isDigit (Char.ofNat b.toNat) = true := by
  have htable : ∀ k < 256, digitValue? (UInt8.ofNat k) ≠ none →
      k < 0x80 ∧ isDigit (Char.ofNat k) = true := by
    decide +kernel
  rw [← UInt8.ofNat_toNat (x := b)] at h
  exact htable b.toNat b.toNat_lt h

/-- What is read consists of digits, since any other byte is refused where it stands. -/
theorem digitValue?_of_decodePairs {position pairs : Nat} {bytes l : Bytes}
    (hlength : bytes.length = 2 * pairs) (h : decodePairs position bytes = .ok l) :
    ∀ b ∈ bytes, digitValue? b ≠ none := by
  have hdigit : ∀ {position b v}, digitAt position b = .ok v → digitValue? b ≠ none := by
    intro position b v hv hnone
    rw [digitAt, hnone] at hv
    cases hv
  induction pairs generalizing position bytes l with
  | zero =>
    obtain rfl := List.eq_nil_of_length_eq_zero hlength
    intro b hb
    cases hb
  | succ pairs ih =>
    obtain ⟨a, bytes, rfl⟩ := List.exists_cons_of_length_eq_add_one hlength
    obtain ⟨b, bytes, rfl⟩ := List.exists_cons_of_length_eq_add_one (Nat.succ.inj hlength)
    obtain ⟨high, hhigh, h⟩ := eq_ok_of_bind h
    obtain ⟨low, hlow, h⟩ := eq_ok_of_bind h
    obtain ⟨rest, hrest, -⟩ := eq_ok_of_bind h
    refine List.forall_mem_cons.2 ⟨hdigit hhigh, List.forall_mem_cons.2 ⟨hdigit hlow, ?_⟩⟩
    exact ih (Nat.succ.inj (Nat.succ.inj hlength)) hrest

/-- A character all of whose bytes are taken for digits is one byte long, and a digit. -/
theorem isDigit_of_bytes {c : Char} (h : ∀ b ∈ String.utf8EncodeChar c, digitValue? b ≠ none) :
    isDigit c = true := by
  obtain ⟨b, hb⟩ : ∃ b, b ∈ String.utf8EncodeChar c := by
    refine List.exists_mem_of_length_pos ?_
    rw [String.length_utf8EncodeChar]
    exact c.utf8Size_pos
  obtain ⟨hlow, hdigit⟩ := isDigit_of_digitValue? (h b hb)
  rcases Utf8.mem_utf8EncodeChar hb with hsame | hhigh
  · rwa [hsame, show Char.ofNat c.val.toNat = c from Char.ofNat_toNat c] at hdigit
  · omega

theorem length_textBytes_of_isDigit {text : String} (h : ∀ c ∈ text.toList, isDigit c = true) :
    (textBytes text).length = text.toList.length := by
  rw [textBytes, Utf8.encode_ascii fun c hc => isDigit_ascii (h c hc), List.length_map]

/-- A text is read as a byte string if and only if it spells it. -/
theorem decode_eq_ok_iff {text : String} {l : Bytes} :
    decode (textBytes text) = .ok l ↔ Spells text.toList l := by
  constructor
  · intro h
    by_cases hodd : (textBytes text).length % 2 = 1
    · rw [decode, if_pos hodd] at h
      cases h
    rw [decode, if_neg hodd] at h
    have hpairs : (textBytes text).length = 2 * ((textBytes text).length / 2) := by omega
    have hdigits : ∀ c ∈ text.toList, isDigit c = true := by
      intro c hc
      refine isDigit_of_bytes fun b hb => digitValue?_of_decodePairs hpairs h b ?_
      exact List.mem_flatMap.2 ⟨c, hc, hb⟩
    rw [length_textBytes_of_isDigit hdigits] at hpairs
    obtain ⟨l', hread, hspells⟩ := exists_decodePairs 0 hpairs hdigits
    obtain rfl : l' = l := Except.ok.inj (hread.symm.trans h)
    exact hspells
  · intro h
    obtain ⟨l', hread, hspells⟩ := exists_decodePairs 0 h.length_eq h.digits
    have heq : l' = l := encodeChars_injective (hspells.lower_eq.symm.trans h.lower_eq)
    have heven : ¬ (textBytes text).length % 2 = 1 := by
      rw [length_textBytes_of_isDigit h.digits, h.length_eq]
      omega
    rw [decode, if_neg heven, ← heq]
    exact hread

/-- A text in lower case spells a byte string if and only if it is what is written for it. -/
theorem eq_encode_iff {text : String} {l : Bytes} :
    text = encode l ↔ Spells text.toList l ∧ text.toList.map Char.toLower = text.toList := by
  constructor
  · rintro rfl
    have hlower : ∀ c ∈ encodeChars l, c.toLower = c := by
      have htable : ∀ n < 16, (digitChar n).toLower = digitChar n := by decide
      intro c hc
      obtain ⟨n, hn, rfl⟩ := mem_encodeChars hc
      exact htable n hn
    have hmap : (encodeChars l).map Char.toLower = encodeChars l :=
      (List.map_congr_left hlower).trans (List.map_id' _)
    rw [encode, String.toList_ofList]
    exact ⟨⟨fun c hc => List.all_eq_true.1 (all_isDigit_encodeChars l) c hc, hmap⟩, hmap⟩
  · rintro ⟨hspells, hlower⟩
    rw [encode, ← hspells.lower_eq, hlower, String.ofList_toList]

/-- A text of digits is read as `n` bytes if and only if it spells them. -/
theorem decodeSized_eq_ok_iff {n : Nat} {text : String} (h : ∀ c ∈ text.toList, isDigit c = true)
    {o : Octets n} : decodeSized n (textBytes text) = .ok o ↔ Spells text.toList o.toList := by
  unfold decodeSized
  rw [length_textBytes_of_isDigit h]
  by_cases hsize : text.toList.length = 2 * n
  · obtain ⟨l, hread, hspells⟩ := exists_decodePairs 0 hsize h
    have hl : l.length = n := by
      have := hspells.length_eq
      omega
    have hread' : decodePairs 0 (textBytes text) = .ok l := hread
    rw [if_neg (by omega), if_neg (by omega)]
    simp only [hread', Octets.ofList?, dif_pos hl, bind, Except.bind, pure, Except.pure]
    constructor
    · intro ho
      rw [← Except.ok.inj ho]
      exact hspells
    · intro ho
      have heq : l = o.toList := encodeChars_injective (hspells.lower_eq.symm.trans ho.lower_eq)
      exact congrArg Except.ok (Octets.ext_toList heq)
  · constructor
    · -- a text of another length is refused, for its odd length or for its size
      intro ho
      by_cases hodd : text.toList.length % 2 = 1
      · rw [if_pos hodd] at ho
        cases ho
      · rw [if_neg hodd, if_pos (by omega)] at ho
        cases ho
    · intro ho
      have hspelled := ho.length_eq
      rw [o.length_toList] at hspelled
      exact absurd hspelled hsize

end Hex

end ModelProtection
