/-
Every byte string has one written form in Base64.

The reader refuses what the writer does not produce: a last group that is not
filled up, padding in any other place, and a last symbol with bits that carry no
data. So a text that is read is the written form of what is read from it
(`decode_eq_ok_iff`), and nothing but white space can be changed in a text
without changing what it says.

Symbols come first: a byte with a value is the symbol of that value. The rest
follows the recursion of the reader. Each full group gives its four symbols back
(`encodeBytes_group`). The last group is taken apart by `scanTail_shape` into
symbols and padding, and the three checks of `decodeTail` leave just the three
forms in which the writer ends.
-/
import ModelProtection.Proofs.Text.Cutting
import ModelProtection.Proofs.Text.Digits

set_option autoImplicit false

namespace ModelProtection

/-! ## Characters -/

/-- Texts with the same bytes are the same. -/
theorem Utf8.encode_injective {l l' : List Char} (h : encode l = encode l') : l = l' := by
  have hread := decodeChars_encode l
  rw [h, decodeChars_encode] at hread
  exact (Except.ok.inj hread).symm

/-! ## White space -/

namespace Space

/-- White space around a text that has none is trimmed, and nothing else is. -/
theorem trim_surrounded {before text after : List Char} (hbefore : ∀ c ∈ before, isSpace c = true)
    (hafter : ∀ c ∈ after, isSpace c = true) (htext : ∀ c ∈ text, isSpace c = false) :
    trim (before ++ text ++ after) = text := by
  unfold trim trimStart
  rw [List.append_assoc, List.dropWhile_append_of_pos hbefore]
  by_cases hnil : text = []
  · -- the white space behind an empty text is dropped from its front
    have hdrop : (after ++ []).dropWhile isSpace = [] := List.dropWhile_append_of_pos hafter
    rw [List.append_nil] at hdrop
    rw [hnil, List.nil_append, hdrop]
    rfl
  · obtain ⟨c, l, rfl⟩ := List.exists_cons_of_ne_nil hnil
    have hreverse : ∀ d ∈ after.reverse, isSpace d = true := by
      intro d hd
      exact hafter d (List.mem_reverse.1 hd)
    have hkept : ∀ d ∈ (c :: l).reverse, isSpace d = false := by
      intro d hd
      exact htext d (List.mem_reverse.1 hd)
    have hc : ¬ isSpace c = true := by simp [htext c]
    rw [List.cons_append, List.dropWhile_cons_of_neg hc, ← List.cons_append, trimEnd,
      List.reverse_append, List.dropWhile_append_of_pos hreverse, dropWhile_eq_self hkept,
      List.reverse_reverse]

end Space

namespace Base64

/-! ## Symbols -/

/-- A byte that has a value is the symbol of that value. -/
theorem symbolByte_of_value? {b : UInt8} {n : Nat} (h : value? b = some n) :
    n < 64 ∧ symbolByte n = b := by
  have htable : ∀ k < 256, ((value? (UInt8.ofNat k)).all fun n =>
      n < 64 && symbolByte n == UInt8.ofNat k) = true := by
    decide +kernel
  have hb := htable b.toNat b.toNat_lt
  rw [UInt8.ofNat_toNat, h] at hb
  simpa using hb

theorem symbolByte_of_valueAt {offset : Nat} {b : UInt8} {n : Nat} (h : valueAt offset b = .ok n) :
    n < 64 ∧ symbolByte n = b := by
  unfold valueAt at h
  split at h
  · rename_i v hv
    cases h
    exact symbolByte_of_value? hv
  · cases h

/-! ## Groups

The arithmetic of a group the other way round: four values make three bytes, and
the symbols of these are those of the four values. -/

section Groups

variable {v w x y : Nat}

theorem encodeBytes_group (hv : v < 64) (hw : w < 64) (hx : x < 64) (hy : y < 64) (rest : Bytes) :
    encodeBytes (UInt8.ofNat (v * 4 + w / 16) :: UInt8.ofNat (w % 16 * 16 + x / 4)
        :: UInt8.ofNat (x % 4 * 64 + y) :: rest)
      = symbolByte v :: symbolByte w :: symbolByte x :: symbolByte y :: encodeBytes rest := by
  have ha : (UInt8.ofNat (v * 4 + w / 16)).toNat = v * 4 + w / 16 := Utf8.toNat_byte (by omega)
  have hb : (UInt8.ofNat (w % 16 * 16 + x / 4)).toNat = w % 16 * 16 + x / 4 :=
    Utf8.toNat_byte (by omega)
  have hc : (UInt8.ofNat (x % 4 * 64 + y)).toNat = x % 4 * 64 + y := Utf8.toNat_byte (by omega)
  rw [encodeBytes, ha, hb, hc, show (v * 4 + w / 16) / 4 = v by omega,
    show (v * 4 + w / 16) % 4 * 16 + (w % 16 * 16 + x / 4) / 16 = w by omega,
    show (w % 16 * 16 + x / 4) % 16 * 4 + (x % 4 * 64 + y) / 64 = x by omega,
    show (x % 4 * 64 + y) % 64 = y by omega]

/-- Two bytes: the last symbol carries no data in its last two bits. -/
theorem encodeBytes_group_two (hv : v < 64) (hw : w < 64) (hx : x < 64) (hleft : x % 4 = 0) :
    encodeBytes [UInt8.ofNat (v * 4 + w / 16), UInt8.ofNat (w % 16 * 16 + x / 4)]
      = [symbolByte v, symbolByte w, symbolByte x, padding] := by
  have ha : (UInt8.ofNat (v * 4 + w / 16)).toNat = v * 4 + w / 16 := Utf8.toNat_byte (by omega)
  have hb : (UInt8.ofNat (w % 16 * 16 + x / 4)).toNat = w % 16 * 16 + x / 4 :=
    Utf8.toNat_byte (by omega)
  rw [encodeBytes, ha, hb, show (v * 4 + w / 16) / 4 = v by omega,
    show (v * 4 + w / 16) % 4 * 16 + (w % 16 * 16 + x / 4) / 16 = w by omega,
    show (w % 16 * 16 + x / 4) % 16 * 4 = x by omega]

/-- One byte: the last symbol carries no data in its last four bits. -/
theorem encodeBytes_group_one (hv : v < 64) (hw : w < 64) (hleft : w % 16 = 0) :
    encodeBytes [UInt8.ofNat (v * 4 + w / 16)]
      = [symbolByte v, symbolByte w, padding, padding] := by
  have ha : (UInt8.ofNat (v * 4 + w / 16)).toNat = v * 4 + w / 16 := Utf8.toNat_byte (by omega)
  rw [encodeBytes, ha, show (v * 4 + w / 16) / 4 = v by omega,
    show (v * 4 + w / 16) % 4 * 16 = w by omega]

end Groups

/-! ## The last group -/

/-- What is read as a last group is symbols and then padding. The induction is on what is left to be
read; once there is padding, only more of it can follow. -/
theorem scanTail_shape {start position : Nat} {t t' : Tail} {l : Bytes}
    (h : scanTail start position t l = .ok t') :
    ∃ vs pads, l = vs.map symbolByte ++ List.replicate pads padding
      ∧ t'.values = t.values ++ vs ∧ t'.pads = t.pads + pads
      ∧ (∀ v ∈ vs, v < 64) ∧ (0 < t.pads → vs = []) := by
  induction l generalizing position t with
  | nil =>
    cases h
    exact ⟨[], 0, rfl, (List.append_nil _).symm, rfl, nofun, fun _ => rfl⟩
  | cons b l ih =>
    rw [scanTail] at h
    by_cases hpad : b = padding
    · rw [if_pos hpad] at h
      split at h
      · cases h
      · obtain ⟨vs, pads, hl, hvalues, hpads, hlt, hnil⟩ := ih h
        -- behind this padding there are no symbols
        have hvs : vs = [] := hnil (Nat.succ_pos _)
        subst hvs
        refine ⟨[], pads + 1, ?_, hvalues, ?_, nofun, fun _ => rfl⟩
        · rw [hpad, hl]
          rfl
        · rw [hpads]
          exact Nat.succ_add_eq_add_succ _ _
    · rw [if_neg hpad] at h
      by_cases hpads : t.pads > 0
      · rw [if_pos hpads] at h
        cases h
      · rw [if_neg hpads] at h
        cases hv : valueAt (start + position) b with
        | error e =>
          rw [hv] at h
          cases h
        | ok v =>
          rw [hv] at h
          obtain ⟨hv64, rfl⟩ := symbolByte_of_valueAt hv
          obtain ⟨vs, pads, hl, hvalues, hpads', hlt, -⟩ := ih h
          refine ⟨v :: vs, pads, ?_, ?_, hpads', ?_, fun hpos => absurd hpos hpads⟩
          · rw [hl]
            rfl
          · rw [hvalues, List.append_assoc]
            rfl
          · exact List.forall_mem_cons.2 ⟨hv64, hlt⟩

/-- The bytes of a last group without stray bits have the symbols of the group, filled up. -/
theorem encodeBytes_groupBytes {vs : List Nat} {pads : Nat} (hmany : 2 ≤ vs.length)
    (hfill : pads + vs.length = 4) (hlt : ∀ v ∈ vs, v < 64) (hleft : (groupBytes vs).2 = 0) :
    encodeBytes (groupBytes vs).1 = vs.map symbolByte ++ List.replicate pads padding := by
  match vs, hmany with
  | [v, w], _ =>
    obtain rfl : pads = 2 := by simpa using hfill
    simp only [List.forall_mem_cons] at hlt
    exact encodeBytes_group_one hlt.1 hlt.2.1 hleft
  | [v, w, x], _ =>
    obtain rfl : pads = 1 := by simpa using hfill
    simp only [List.forall_mem_cons] at hlt
    exact encodeBytes_group_two hlt.1 hlt.2.1 hlt.2.2.1 hleft
  | [v, w, x, y], _ =>
    obtain rfl : pads = 0 := by simpa using hfill
    simp only [List.forall_mem_cons] at hlt
    exact encodeBytes_group hlt.1 hlt.2.1 hlt.2.2.1 hlt.2.2.2.1 []
  | _ :: _ :: _ :: _ :: _ :: _, _ =>
    simp only [List.length_cons] at hfill
    omega

/-- A last group that is read is the written form of what is read from it. -/
theorem encodeBytes_of_decodeTail {start : Nat} {l bytes : Bytes} (hl : l.length ≤ 4)
    (h : decodeTail start l = .ok bytes) : encodeBytes bytes = l := by
  unfold decodeTail at h
  cases hscan : scanTail start 0 ⟨[], 0, 0⟩ l with
  | error e =>
    rw [hscan] at h
    cases h
  | ok t =>
    rw [hscan] at h
    obtain ⟨vs, pads, rfl, hvalues, hpads, hlt, -⟩ := scanTail_shape hscan
    rw [List.nil_append] at hvalues
    rw [Nat.zero_add] at hpads
    simp only [bind, Except.bind, hvalues, hpads] at h
    by_cases hfew : vs.length < 2
    · rw [if_pos hfew] at h
      cases h
    rw [if_neg hfew] at h
    by_cases hfill : (pads + vs.length) % 4 ≠ 0
    · rw [if_pos hfill] at h
      cases h
    rw [if_neg hfill] at h
    dsimp only [pure, Except.pure] at h
    by_cases hleft : (groupBytes vs).2 ≠ 0
    · rw [if_pos hleft] at h
      cases h
    rw [if_neg hleft] at h
    cases h
    refine encodeBytes_groupBytes (by omega) ?_ hlt (Decidable.not_not.1 hleft)
    -- the group is filled up, and it has no more than four symbols
    rw [List.length_append, List.length_map, List.length_replicate] at hl
    omega

/-! ## Whole texts -/

/-- What is read from any position is written again. The induction is on the groups of the reader,
which takes a group as a full one as long as there is something behind it. -/
theorem encodeBytes_of_decodeFrom {start : Nat} {l bytes : Bytes}
    (h : decodeFrom start l = .ok bytes) : encodeBytes bytes = l := by
  induction start, l using decodeFrom.induct generalizing bytes with
  | case1 start a b c d e l ih =>
    rw [decodeFrom] at h
    obtain ⟨v, hv, h⟩ := eq_ok_of_bind h
    obtain ⟨w, hw, h⟩ := eq_ok_of_bind h
    obtain ⟨x, hx, h⟩ := eq_ok_of_bind h
    obtain ⟨y, hy, h⟩ := eq_ok_of_bind h
    obtain ⟨rest, hrest, h⟩ := eq_ok_of_bind h
    cases h
    obtain ⟨hv64, rfl⟩ := symbolByte_of_valueAt hv
    obtain ⟨hw64, rfl⟩ := symbolByte_of_valueAt hw
    obtain ⟨hx64, rfl⟩ := symbolByte_of_valueAt hx
    obtain ⟨hy64, rfl⟩ := symbolByte_of_valueAt hy
    rw [encodeBytes_group hv64 hw64 hx64 hy64, ih hrest]
  | case2 start l hlast =>
    have hl : l.length ≤ 4 := by
      refine Nat.le_of_not_lt fun hlong => ?_
      -- with five symbols there would be something behind the first group
      obtain _ | ⟨a, _ | ⟨b, _ | ⟨c, _ | ⟨d, _ | ⟨e, more⟩⟩⟩⟩⟩ := l
      all_goals try simp at hlong
      exact hlast a b c d e more rfl
    rw [decodeFrom.eq_2 start l hlast] at h
    exact encodeBytes_of_decodeTail hl h

theorem encodeBytes_of_decode {l bytes : Bytes} (h : decode l = .ok bytes) :
    encodeBytes bytes = l := by
  unfold decode at h
  split at h
  · rename_i hlast
    cases h
    rw [List.getLast?_eq_none_iff.1 hlast]
    rfl
  · split at h
    · cases h
    · exact encodeBytes_of_decodeFrom h

/-- **One written form.** A text is read if and only if it is what is written for the bytes that are
read from it. -/
theorem decode_eq_ok_iff {text : List Char} {bytes : Bytes} :
    decode (Utf8.encode text) = .ok bytes ↔ text = encodeChars bytes := by
  constructor
  · intro h
    have hbytes := encodeBytes_of_decode h
    rw [← encode_encodeChars] at hbytes
    exact (Utf8.encode_injective hbytes).symm
  · rintro rfl
    exact decode_encodeChars bytes

end Base64

end ModelProtection
