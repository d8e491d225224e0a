/-
Byte strings that are written in hexadecimal digits or in Base64 are read back.

A reader sees the bytes of the digits, so both codecs start with one table: the
byte of the digit for a value has that value (`digitValue?_digitByte`,
`value?_symbolByte`). Both tables are finite and decided. The rest follows the
recursion of the writer: two digits for each byte, four symbols for each three
bytes.

For Base64 the last group needs its own lemmas, because the reader takes every
group but the last without padding. A last group of three bytes is full, and the
reader still reads it as a last group, which is why `decodeTail` has three cases.
-/
import ModelProtection.Proofs.Text.Utf8
import ModelProtection.Text.Base64
import ModelProtection.Text.Hex
import ModelProtection.Text.Space

set_option autoImplicit false

namespace ModelProtection

/-! ## Results of readers -/

/-- A result that is good stays good when errors are reworded. -/
theorem mapError_ok {ε ε' α : Type} (f : ε → ε') (a : α) :
    (Except.ok a : Except ε α).mapError f = .ok a := rfl

theorem mapError_eq_ok_iff {ε ε' α : Type} {x : Except ε α} {f : ε → ε'} {a : α} :
    x.mapError f = .ok a ↔ x = .ok a := by
  cases x with
  | error e => exact ⟨nofun, nofun⟩
  | ok b => exact ⟨fun h => by cases h; rfl, fun h => by cases h; rfl⟩

/-- What is read in two steps is good if both steps are. -/
theorem eq_ok_of_bind {ε α β : Type} {x : Except ε α} {f : α → Except ε β} {b : β}
    (h : (x >>= f) = .ok b) : ∃ a, x = .ok a ∧ f a = .ok b := by
  cases x with
  | error e => cases h
  | ok a => exact ⟨a, rfl, h⟩

/-- A check without a result is settled by whether it passes, and that can be computed. -/
theorem eq_ok_of_isOk {ε : Type} {x : Except ε Unit} (h : x.isOk = true) : x = .ok () := by
  cases x with
  | error e => cases h
  | ok _ => rfl

/-! ## Hexadecimal digits -/

namespace Hex

/-- The byte of a digit. -/
def digitByte (n : Nat) : UInt8 := UInt8.ofNat (digitChar n).val.toNat

theorem digitValue?_digitByte : ∀ n < 16, digitValue? (digitByte n) = some n := by decide

theorem digitChar_ascii : ∀ n < 16, (digitChar n).val.toNat < 0x80 := by decide

theorem isDigit_digitChar : ∀ n < 16, isDigit (digitChar n) = true := by decide

theorem digit_range {c : Char} (h : isDigit c = true) :
    48 ≤ c.val.toNat ∧ c.val.toNat ≤ 102 := by
  simp only [isDigit, Bool.or_eq_true, Bool.and_eq_true, decide_eq_true_eq, Char.le_def,
    UInt32.le_iff_toNat_le] at h
  have h0 : ('0' : Char).val.toNat = 48 := rfl
  have h9 : ('9' : Char).val.toNat = 57 := rfl
  have ha : ('a' : Char).val.toNat = 97 := rfl
  have hf : ('f' : Char).val.toNat = 102 := rfl
  have hA : ('A' : Char).val.toNat = 65 := rfl
  have hF : ('F' : Char).val.toNat = 70 := rfl
  omega

theorem digit_lt (b : UInt8) : b.toNat / 16 < 16 ∧ b.toNat % 16 < 16 := by
  have := b.toNat_lt
  omega

@[simp] theorem length_encodeChars (l : Bytes) : (encodeChars l).length = 2 * l.length := by
  induction l with
  | nil => rfl
  | cons b l ih =>
    rw [encodeChars] at ih
    simp only [encodeChars, List.flatMap_cons, List.length_append, ih, ofByte, List.length_cons,
      List.length_nil]
    omega

theorem mem_encodeChars {l : Bytes} {c : Char} (h : c ∈ encodeChars l) :
    ∃ n < 16, c = digitChar n := by
  obtain ⟨b, -, hc⟩ := List.mem_flatMap.1 h
  have hb := digit_lt b
  rcases List.mem_cons.1 hc with rfl | hc
  · exact ⟨_, hb.1, rfl⟩
  · exact ⟨_, hb.2, List.mem_singleton.1 hc⟩

theorem all_isDigit_encodeChars (l : Bytes) : (encodeChars l).all isDigit = true := by
  refine List.all_eq_true.2 fun c hc => ?_
  obtain ⟨n, hn, rfl⟩ := mem_encodeChars hc
  exact isDigit_digitChar n hn

theorem encodeChars_ascii (l : Bytes) : ∀ c ∈ encodeChars l, c.val.toNat < 0x80 := by
  intro c hc
  obtain ⟨n, hn, rfl⟩ := mem_encodeChars hc
  exact digitChar_ascii n hn

/-- The bytes of the digits of a byte string: two for each byte. -/
theorem encode_encodeChars (l : Bytes) :
    Utf8.encode (encodeChars l)
      = l.flatMap fun b => [digitByte (b.toNat / 16), digitByte (b.toNat % 16)] := by
  rw [Utf8.encode_ascii (encodeChars_ascii l), encodeChars, List.map_flatMap]
  rfl

theorem digitAt_digitByte (position : Nat) {n : Nat} (h : n < 16) :
    digitAt position (digitByte n) = .ok n := by
  rw [digitAt, digitValue?_digitByte n h]

theorem decodePairs_encodeChars (position : Nat) (l : Bytes) :
    decodePairs position (Utf8.encode (encodeChars l)) = .ok l := by
  rw [encode_encodeChars]
  -- the position is only for errors, but it moves on by two with each byte
  induction l generalizing position with
  | nil => rfl
  | cons b l ih =>
    have hb := digit_lt b
    have hvalue : UInt8.ofNat (b.toNat / 16 * 16 + b.toNat % 16) = b := by
      rw [Nat.div_add_mod']
      exact UInt8.ofNat_toNat
    simp only [List.flatMap_cons, List.cons_append, List.nil_append, decodePairs,
      digitAt_digitByte _ hb.1, digitAt_digitByte _ hb.2, ih, hvalue, bind, Except.bind, pure,
      Except.pure]

theorem length_encode_encodeChars (l : Bytes) :
    (Utf8.encode (encodeChars l)).length = 2 * l.length := by
  rw [Utf8.encode_ascii (encodeChars_ascii l), List.length_map, length_encodeChars]

theorem decode_encode (l : Bytes) : decode (textBytes (encode l)) = .ok l := by
  rw [decode, encode, textBytes_ofList, length_encode_encodeChars, if_neg (by omega),
    decodePairs_encodeChars]

/-- What was written is read, where the reader knows how many bytes it wants. -/
theorem decodeSized_encode {n : Nat} (o : Octets n) :
    decodeSized n (textBytes (encode o.toList)) = .ok o := by
  have hlength : (textBytes (encode o.toList)).length = 2 * n := by
    rw [encode, textBytes_ofList, length_encode_encodeChars, o.length_toList]
  have hbytes : decodePairs 0 (textBytes (encode o.toList)) = .ok o.toList := by
    rw [encode, textBytes_ofList, decodePairs_encodeChars]
  simp only [decodeSized, hlength, hbytes]
  rw [if_neg (by omega), if_neg (by omega)]
  simp [bind, Except.bind, pure, Except.pure]

theorem length_textBytes_encode (l : Bytes) : (textBytes (encode l)).length = 2 * l.length := by
  rw [encode, textBytes_ofList, length_encode_encodeChars]

end Hex

/-! ## Base64 -/

namespace Base64

/-- The byte of a symbol. -/
def symbolByte (n : Nat) : UInt8 := UInt8.ofNat (symbol n).val.toNat

theorem value?_symbolByte : ∀ n < 64, value? (symbolByte n) = some n := by decide

theorem symbolByte_ne_padding : ∀ n < 64, symbolByte n ≠ padding := by decide

theorem symbol_ascii : ∀ n < 64, (symbol n).val.toNat < 0x80 := by decide

theorem isSpace_symbol : ∀ n < 64, Space.isSpace (symbol n) = false := by decide

theorem valueAt_symbolByte (offset : Nat) {n : Nat} (h : n < 64) :
    valueAt offset (symbolByte n) = .ok n := by
  rw [valueAt, value?_symbolByte n h]

/-- The bytes of the symbols of a byte string. -/
def encodeBytes : Bytes → Bytes
  | [] => []
  | [a] => [symbolByte (a.toNat / 4), symbolByte (a.toNat % 4 * 16), padding, padding]
  | [a, b] =>
    [symbolByte (a.toNat / 4), symbolByte (a.toNat % 4 * 16 + b.toNat / 16),
      symbolByte (b.toNat % 16 * 4), padding]
  | a :: b :: c :: l =>
    symbolByte (a.toNat / 4) :: symbolByte (a.toNat % 4 * 16 + b.toNat / 16)
      :: symbolByte (b.toNat % 16 * 4 + c.toNat / 64) :: symbolByte (c.toNat % 64) :: encodeBytes l

/-- A symbol is that of a value below 64, or padding. -/
theorem mem_encodeChars {l : Bytes} {c : Char} (h : c ∈ encodeChars l) :
    (∃ n < 64, c = symbol n) ∨ c = '=' := by
  -- the writer's own cases: nothing left, one byte, two bytes, or a full group and a rest
  induction l using encodeChars.induct with
  | case1 => cases h
  | case2 a =>
    have ha := a.toNat_lt
    simp only [encodeChars, List.mem_cons, List.not_mem_nil, or_false] at h
    rcases h with rfl | rfl | rfl | rfl
    · exact .inl ⟨_, by omega, rfl⟩
    · exact .inl ⟨_, by omega, rfl⟩
    · exact .inr rfl
    · exact .inr rfl
  | case3 a b =>
    have ha := a.toNat_lt
    have hb := b.toNat_lt
    simp only [encodeChars, List.mem_cons, List.not_mem_nil, or_false] at h
    rcases h with rfl | rfl | rfl | rfl
    · exact .inl ⟨_, by omega, rfl⟩
    · exact .inl ⟨_, by omega, rfl⟩
    · exact .inl ⟨_, by omega, rfl⟩
    · exact .inr rfl
  | case4 a b d l ih =>
    have ha := a.toNat_lt
    have hb := b.toNat_lt
    have hd := d.toNat_lt
    simp only [encodeChars, List.mem_cons] at h
    rcases h with rfl | rfl | rfl | rfl | h
    · exact .inl ⟨_, by omega, rfl⟩
    · exact .inl ⟨_, by omega, rfl⟩
    · exact .inl ⟨_, by omega, rfl⟩
    · exact .inl ⟨_, by omega, rfl⟩
    · exact ih h

theorem encodeChars_ascii (l : Bytes) : ∀ c ∈ encodeChars l, c.val.toNat < 0x80 := by
  intro c hc
  rcases mem_encodeChars hc with ⟨n, hn, rfl⟩ | rfl
  · exact symbol_ascii n hn
  · decide

theorem encodeChars_not_space (l : Bytes) : ∀ c ∈ encodeChars l, Space.isSpace c = false := by
  intro c hc
  rcases mem_encodeChars hc with ⟨n, hn, rfl⟩ | rfl
  · exact isSpace_symbol n hn
  · decide

theorem encode_encodeChars (l : Bytes) : Utf8.encode (encodeChars l) = encodeBytes l := by
  rw [Utf8.encode_ascii (encodeChars_ascii l)]
  induction l using encodeChars.induct with
  | case1 => rfl
  | case2 a => rfl
  | case3 a b => rfl
  | case4 a b c l ih =>
    rw [encodeChars, encodeBytes, ← ih]
    rfl

/-- Four symbols for each three bytes that were begun. -/
theorem length_encodeBytes (l : Bytes) : (encodeBytes l).length = 4 * ((l.length + 2) / 3) := by
  induction l using encodeBytes.induct with
  | case1 => rfl
  | case2 a => simp [encodeBytes]
  | case3 a b => simp [encodeBytes]
  | case4 a b c l ih =>
    simp only [encodeBytes, List.length_cons, ih]
    omega

theorem length_textBytes_encode (l : Bytes) :
    (textBytes (encode l)).length = 4 * ((l.length + 2) / 3) := by
  rw [encode, textBytes_ofList, encode_encodeChars, length_encodeBytes]

/-! ### Groups

Six bits from each symbol make the bytes again; the arithmetic is the same in
every group. -/

theorem first_byte (a : UInt8) {w : Nat} (h : w < 16) :
    UInt8.ofNat (a.toNat / 4 * 4 + (a.toNat % 4 * 16 + w) / 16) = a := by
  rw [show a.toNat / 4 * 4 + (a.toNat % 4 * 16 + w) / 16 = a.toNat by omega]
  exact UInt8.ofNat_toNat

theorem second_byte (a : Nat) (b : UInt8) {x : Nat} (h : x < 4) :
    UInt8.ofNat ((a * 16 + b.toNat / 16) % 16 * 16 + (b.toNat % 16 * 4 + x) / 4) = b := by
  have hb := b.toNat_lt
  rw [show (a * 16 + b.toNat / 16) % 16 * 16 + (b.toNat % 16 * 4 + x) / 4 = b.toNat by omega]
  exact UInt8.ofNat_toNat

theorem third_byte (b : Nat) (c : UInt8) :
    UInt8.ofNat ((b * 4 + c.toNat / 64) % 4 * 64 + c.toNat % 64) = c := by
  have hc := c.toNat_lt
  rw [show (b * 4 + c.toNat / 64) % 4 * 64 + c.toNat % 64 = c.toNat by omega]
  exact UInt8.ofNat_toNat

/-- Taking the symbol of a value in a last group that has no padding yet. -/
theorem scanTail_symbolByte (start position : Nat) (vs : List Nat) (last : UInt8) {n : Nat}
    (h : n < 64) (l : Bytes) :
    scanTail start position ⟨vs, last, 0⟩ (symbolByte n :: l)
      = scanTail start (position + 1) ⟨vs ++ [n], symbolByte n, 0⟩ l := by
  rw [scanTail, if_neg (symbolByte_ne_padding n h), if_neg (by simp), valueAt_symbolByte _ h]
  rfl

theorem decodeTail_one (start : Nat) (a : UInt8) :
    decodeTail start (encodeBytes [a]) = .ok [a] := by
  have ha := a.toNat_lt
  have hbyte := first_byte a (w := 0) (by omega)
  have hscan : scanTail start 0 ⟨[], 0, 0⟩ (encodeBytes [a])
      = .ok ⟨[a.toNat / 4, a.toNat % 4 * 16], symbolByte (a.toNat % 4 * 16), 2⟩ := by
    rw [encodeBytes, scanTail_symbolByte _ _ _ _ (by omega), scanTail_symbolByte _ _ _ _ (by omega)]
    rfl
  simp only [Nat.add_zero] at hbyte
  simp only [decodeTail, hscan, groupBytes, hbyte, bind, Except.bind]
  rw [if_neg (by simp), if_neg (by simp)]
  simp [Nat.mul_mod_left, pure, Except.pure]

theorem decodeTail_two (start : Nat) (a b : UInt8) :
    decodeTail start (encodeBytes [a, b]) = .ok [a, b] := by
  have ha := a.toNat_lt
  have hb := b.toNat_lt
  have hfirst := first_byte a (w := b.toNat / 16) (by omega)
  have hsecond := second_byte (a.toNat % 4) b (x := 0) (by omega)
  have hscan : scanTail start 0 ⟨[], 0, 0⟩ (encodeBytes [a, b])
      = .ok ⟨[a.toNat / 4, a.toNat % 4 * 16 + b.toNat / 16, b.toNat % 16 * 4],
          symbolByte (b.toNat % 16 * 4), 1⟩ := by
    rw [encodeBytes, scanTail_symbolByte _ _ _ _ (by omega), scanTail_symbolByte _ _ _ _ (by omega),
      scanTail_symbolByte _ _ _ _ (by omega)]
    rfl
  simp only [Nat.add_zero] at hsecond
  simp only [decodeTail, hscan, groupBytes, hfirst, hsecond, bind, Except.bind]
  rw [if_neg (by simp), if_neg (by simp)]
  simp [Nat.mul_mod_left, pure, Except.pure]

theorem decodeTail_three (start : Nat) (a b c : UInt8) :
    decodeTail start (encodeBytes [a, b, c]) = .ok [a, b, c] := by
  have ha := a.toNat_lt
  have hb := b.toNat_lt
  have hc := c.toNat_lt
  have hfirst := first_byte a (w := b.toNat / 16) (by omega)
  have hsecond := second_byte (a.toNat % 4) b (x := c.toNat / 64) (by omega)
  have hthird := third_byte (b.toNat % 16) c
  have hscan : scanTail start 0 ⟨[], 0, 0⟩ (encodeBytes [a, b, c])
      = .ok ⟨[a.toNat / 4, a.toNat % 4 * 16 + b.toNat / 16, b.toNat % 16 * 4 + c.toNat / 64,
          c.toNat % 64], symbolByte (c.toNat % 64), 0⟩ := by
    rw [encodeBytes, encodeBytes, scanTail_symbolByte _ _ _ _ (by omega),
      scanTail_symbolByte _ _ _ _ (by omega), scanTail_symbolByte _ _ _ _ (by omega),
      scanTail_symbolByte _ _ _ _ (by omega)]
    rfl
  simp only [decodeTail, hscan, groupBytes, hfirst, hsecond, hthird, bind, Except.bind]
  rw [if_neg (by simp), if_neg (by simp)]
  simp [pure, Except.pure]

/-! ### Whole texts -/

/-- Written bytes are read from any position. The induction is on the groups of the writer; the
group in front of an empty rest is the reader's last group. -/
theorem decodeFrom_encodeBytes (start : Nat) {l : Bytes} (hl : l ≠ []) :
    decodeFrom start (encodeBytes l) = .ok l := by
  induction l using encodeBytes.induct generalizing start with
  | case1 => exact absurd rfl hl
  | case2 a => exact decodeTail_one start a
  | case3 a b => exact decodeTail_two start a b
  | case4 a b c l ih =>
    -- the reader looks ahead: a full group with nothing behind it is read as a last group
    by_cases hrest : l = []
    · subst hrest
      exact decodeTail_three start a b c
    have ha := a.toNat_lt
    have hb := b.toNat_lt
    have hc := c.toNat_lt
    -- the rest has symbols for the reader to see, since it has bytes
    obtain ⟨e, more, he⟩ : ∃ e more, encodeBytes l = e :: more := by
      cases h : encodeBytes l with
      | nil =>
        have hlength := length_encodeBytes l
        have := List.length_pos_iff.2 hrest
        rw [h, List.length_nil] at hlength
        omega
      | cons e more => exact ⟨e, more, rfl⟩
    have hread := ih (start + 4) hrest
    rw [encodeBytes, he, decodeFrom, ← he, hread, valueAt_symbolByte _ (by omega),
      valueAt_symbolByte _ (by omega), valueAt_symbolByte _ (by omega),
      valueAt_symbolByte _ (by omega)]
    simp only [bind, Except.bind, pure, Except.pure]
    rw [first_byte a (by omega), second_byte _ b (by omega), third_byte _ c]

/-- What was written is read. -/
theorem decode_encodeChars (l : Bytes) : decode (Utf8.encode (encodeChars l)) = .ok l := by
  rw [encode_encodeChars]
  by_cases hl : l = []
  · subst hl
    rfl
  have hlength := length_encodeBytes l
  unfold decode
  cases hlast : (encodeBytes l).getLast? with
  | none =>
    -- bytes that were written have a last symbol
    have := List.length_pos_iff.2 hl
    rw [List.getLast?_eq_none_iff.1 hlast, List.length_nil] at hlength
    omega
  | some b =>
    dsimp only
    -- the check on the last symbol is only made of lengths that are not whole groups
    rw [if_neg (by omega), decodeFrom_encodeBytes 0 hl]

end Base64

end ModelProtection
