/-
Where a text may be cut.

The first byte of a character is no tail and all its others are
(`exists_utf8EncodeChar`), so one byte tells whether an offset into a text lies between
two characters, and the boundaries of a text are the lengths of its starts
(`isBoundary_iff`). Zero is a boundary of everything. A search that goes back byte by
byte therefore ends, and because it ends at the first boundary that it meets, there is
none between that one and where it set out (`exists_lastBoundary?`). So a text is cut
to the longest of its starts that is within the bound (`cut_truncate`).
-/
import ModelProtection.Metadata
import ModelProtection.Proofs.Text.Utf8

set_option autoImplicit false

namespace ModelProtection

/-! ## Boundaries -/

namespace Utf8

variable {l : List Char} {bytes front : Bytes} {i j : Nat}

theorem exists_utf8EncodeChar (c : Char) :
    ∃ b tails, String.utf8EncodeChar c = b :: tails ∧ isTail b = false
      ∧ ∀ t ∈ tails, isTail t = true := by
  have hc := scalar_range c
  have htail : ∀ n, isTail (UInt8.ofNat (n % 0x40 + 0x80)) = true := by
    intro n
    rw [isTail_iff, toNat_byte (by omega)]
    omega
  have hfirst : ∀ n < 256, n < 0x80 ∨ 0xC0 ≤ n → isTail (UInt8.ofNat n) = false := by
    intro n hn hrange
    rw [Bool.eq_false_iff, Ne, isTail_iff, toNat_byte hn]
    omega
  simp only [String.utf8EncodeChar]
  generalize c.val.toNat = v at *
  split
  · exact ⟨_, _, rfl, hfirst _ (by omega) (by omega), nofun⟩
  split
  · refine ⟨_, _, rfl, hfirst _ (by omega) (by omega), ?_⟩
    simp only [List.forall_mem_cons, htail, true_and]
    exact nofun
  split
  · refine ⟨_, _, rfl, hfirst _ (by omega) (by omega), ?_⟩
    simp only [List.forall_mem_cons, htail, true_and]
    exact nofun
  · refine ⟨_, _, rfl, hfirst _ (by omega) (by omega), ?_⟩
    simp only [List.forall_mem_cons, htail, true_and]
    exact nofun

/-- A boundary is an end, or the byte at it is no tail. -/
theorem isBoundary_eq_true_iff :
    isBoundary bytes i = true
      ↔ i = 0 ∨ i = bytes.length ∨ ∃ b, bytes[i]? = some b ∧ isTail b = false := by
  rw [isBoundary, Bool.or_eq_true, beq_iff_eq]
  refine or_congr_right ?_
  cases hbyte : bytes[i]? with
  | none => simp
  | some b =>
    have hlt := (List.getElem?_eq_some_iff.1 hbyte).1
    have hne : i ≠ bytes.length := Nat.ne_of_lt hlt
    simp [hne]

theorem isBoundary_zero : isBoundary bytes 0 = true := isBoundary_eq_true_iff.2 (.inl rfl)

/-- What is a boundary behind some bytes is one without them. -/
theorem isBoundary_of_append (hi : front.length ≤ i) (h : isBoundary (front ++ bytes) i = true) :
    isBoundary bytes (i - front.length) = true := by
  rw [isBoundary_eq_true_iff] at h ⊢
  rw [List.length_append, List.getElem?_append_right hi] at h
  rcases h with h | h | h
  · left
    omega
  · right
    left
    omega
  · exact .inr (.inr h)

/-- No boundary lies inside a character. -/
theorem length_le_of_isBoundary {c : Char} (hi : 0 < i)
    (h : isBoundary (String.utf8EncodeChar c ++ bytes) i = true) :
    (String.utf8EncodeChar c).length ≤ i := by
  refine Nat.le_of_not_lt fun hlt => ?_
  obtain ⟨b, tails, hbytes, -, htails⟩ := exists_utf8EncodeChar c
  rw [isBoundary_eq_true_iff, List.length_append, List.getElem?_append_left hlt] at h
  rcases h with h | h | ⟨t, ht, hplain⟩
  · omega
  · omega
  · obtain ⟨k, rfl⟩ := Nat.exists_eq_succ_of_ne_zero (Nat.ne_of_gt hi)
    rw [hbytes, List.getElem?_cons_succ] at ht
    rw [htails t (List.mem_of_getElem? ht)] at hplain
    cases hplain

/-- The boundaries of a text are the lengths of its starts. -/
theorem isBoundary_iff :
    isBoundary (encode l) i = true ↔ ∃ a b, l = a ++ b ∧ (encode a).length = i := by
  constructor
  · intro h
    induction l generalizing i with
    | nil =>
      have hend : i = 0 := by
        rw [isBoundary_eq_true_iff] at h
        rcases h with h | h | ⟨b, hb, -⟩
        · exact h
        · exact h
        · cases hb
      exact ⟨[], [], rfl, hend.symm⟩
    | cons c l ih =>
      by_cases hi : i = 0
      · exact ⟨[], c :: l, rfl, hi.symm⟩
      · rw [encode_cons] at h
        have hwidth := length_le_of_isBoundary (Nat.pos_of_ne_zero hi) h
        obtain ⟨a, b, rfl, hlength⟩ := ih (isBoundary_of_append hwidth h)
        refine ⟨c :: a, b, rfl, ?_⟩
        rw [encode_cons, List.length_append, hlength]
        omega
  · rintro ⟨a, b, rfl, rfl⟩
    rw [isBoundary_eq_true_iff, encode_append, List.length_append,
      List.getElem?_append_right (Nat.le_refl _), Nat.sub_self]
    cases b with
    | nil => exact .inr (.inl rfl)
    | cons c b =>
      obtain ⟨first, tails, hbytes, hfirst, -⟩ := exists_utf8EncodeChar c
      refine .inr (.inr ⟨first, ?_, hfirst⟩)
      rw [encode_cons, hbytes]
      rfl

/-- The last boundary at or in front of an offset. -/
structure IsLastBoundary (bytes : Bytes) (i j : Nat) : Prop where
  boundary : isBoundary bytes j = true
  le : j ≤ i
  last : ∀ k ≤ i, isBoundary bytes k = true → k ≤ j

/-- The search backwards always ends, since zero is a boundary, and it ends at the last one. -/
theorem exists_lastBoundary? (bytes : Bytes) (i : Nat) :
    ∃ j, lastBoundary? bytes i = some j ∧ IsLastBoundary bytes i j := by
  induction i with
  | zero =>
    refine ⟨0, ?_, isBoundary_zero, Nat.le_refl 0, fun k hk _ => hk⟩
    rw [lastBoundary?, if_pos isBoundary_zero]
  | succ i ih =>
    rw [lastBoundary?]
    by_cases hhere : isBoundary bytes (i + 1) = true
    · rw [if_pos hhere]
      exact ⟨i + 1, rfl, hhere, Nat.le_refl _, fun k hk _ => hk⟩
    · rw [if_neg hhere]
      obtain ⟨j, hj, hboundary, hle, hlast⟩ := ih
      refine ⟨j, hj, hboundary, Nat.le_succ_of_le hle, ?_⟩
      intro k hk hk'
      refine hlast k (Nat.le_of_lt_succ (Nat.lt_of_le_of_ne hk ?_)) hk'
      rintro rfl
      exact hhere hk'

end Utf8

/-! ## Cutting -/

namespace Bound

variable {value p q : String} {most : Nat}

/-- The longest start of a text that has at most `most` bytes. -/
structure Cut (value : String) (most : Nat) (p : String) : Prop where
  starts : p.toList <+: value.toList
  within : byteLength p ≤ most
  longest : ∀ q : String, q.toList <+: value.toList → byteLength q ≤ most
    → byteLength q ≤ byteLength p

theorem byteLength_le_of_starts (h : q.toList <+: value.toList) : byteLength q ≤ byteLength value := by
  obtain ⟨rest, hrest⟩ := h
  rw [byteLength, byteLength, textBytes, textBytes, ← hrest, Utf8.encode_append, List.length_append]
  exact Nat.le_add_right _ _

/-- A text within its bound is its own longest start. -/
theorem cut_self (h : byteLength value ≤ most) : Cut value most value :=
  ⟨List.prefix_rfl, h, fun _ hq _ => byteLength_le_of_starts hq⟩

/-- A start as long as the text is the text. -/
theorem eq_of_starts (h : q.toList <+: value.toList) (hlength : byteLength q = byteLength value) :
    q = value := by
  obtain ⟨rest, hrest⟩ := h
  rw [byteLength, byteLength, textBytes, textBytes, ← hrest, Utf8.encode_append,
    List.length_append] at hlength
  have hnil : rest = [] := by
    cases rest with
    | nil => rfl
    | cons c rest =>
      have hpos := c.utf8Size_pos
      rw [Utf8.encode_cons, List.length_append, String.length_utf8EncodeChar] at hlength
      omega
  rw [hnil, List.append_nil] at hrest
  exact String.toList_inj.1 hrest

/-- Of two starts one goes on from the other; between two longest ones nothing is left. -/
theorem Cut.unique (hp : Cut value most p) (hq : Cut value most q) : p = q := by
  have hlength : byteLength p = byteLength q :=
    Nat.le_antisymm (hq.longest p hp.starts hp.within) (hp.longest q hq.starts hq.within)
  rcases List.prefix_or_prefix_of_prefix hp.starts hq.starts with h | h
  · exact eq_of_starts h hlength
  · exact (eq_of_starts h hlength.symm).symm

theorem exists_truncate? (value : String) (most : Nat) :
    ∃ p, truncate? value most = some p ∧ Cut value most p := by
  by_cases hfits : byteLength value ≤ most
  · exact ⟨value, if_pos hfits, cut_self hfits⟩
  · obtain ⟨j, hj, hlast⟩ := Utf8.exists_lastBoundary? (textBytes value) most
    obtain ⟨a, b, hvalue, hlength⟩ := Utf8.isBoundary_iff.1 hlast.boundary
    have htake : (textBytes value).take j = textBytes (String.ofList a) := by
      rw [textBytes_ofList, textBytes, hvalue, Utf8.encode_append, ← hlength, List.take_left]
    have hcut : byteLength (String.ofList a) = j := by
      rw [byteLength, textBytes_ofList, hlength]
    refine ⟨String.ofList a, ?_, ?_, ?_, ?_⟩
    · rw [truncate?, if_neg hfits, hj]
      show (Utf8.decode ((textBytes value).take j)).toOption = _
      rw [htake, Utf8.decode_textBytes]
      rfl
    · rw [String.toList_ofList, hvalue]
      exact List.prefix_append a b
    · rw [hcut]
      exact hlast.le
    · rintro q ⟨rest, hrest⟩ hq
      rw [hcut]
      exact hlast.last _ hq (Utf8.isBoundary_iff.2 ⟨q.toList, rest, hrest.symm, rfl⟩)

theorem truncate?_eq (value : String) (most : Nat) :
    truncate? value most = some (truncate value most) := by
  obtain ⟨p, hp, -⟩ := exists_truncate? value most
  rw [truncate, hp]
  rfl

theorem cut_truncate (value : String) (most : Nat) : Cut value most (truncate value most) := by
  obtain ⟨p, hp, hcut⟩ := exists_truncate? value most
  rwa [truncate, hp]

theorem truncate_eq_self (h : byteLength value ≤ most) : truncate value most = value :=
  (cut_truncate value most).unique (cut_self h)

end Bound

end ModelProtection
