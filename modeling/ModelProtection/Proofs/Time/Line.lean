/-
The date of a license is short.

A license reserves 64 bytes for its date, and every instant is within that: the
names of days and months have three letters, the day and the numbers of the clock
have two digits, and the years of instants have at most six
(`natAbs_year_reading`).
-/
import ModelProtection.Proofs.Text.Utf8
import ModelProtection.Proofs.Time.Reading
import ModelProtection.Protect.Document
import ModelProtection.Time.Text

set_option autoImplicit false

namespace ModelProtection

/-! ## Numbers -/

namespace Instant

/-- A text of at most `n` ASCII characters. -/
def Short (n : Nat) (l : List Char) : Prop := (∀ c ∈ l, c.val.toNat < 0x80) ∧ l.length ≤ n

theorem Short.append {m n : Nat} {a b : List Char} (ha : Short m a) (hb : Short n b) :
    Short (m + n) (a ++ b) := by
  refine ⟨fun c hc => ?_, ?_⟩
  · rcases List.mem_append.1 hc with hc | hc
    · exact ha.1 c hc
    · exact hb.1 c hc
  · rw [List.length_append]
    exact Nat.add_le_add ha.2 hb.2

theorem Short.cons {n : Nat} {c : Char} {l : List Char} (hc : c.val.toNat < 0x80) (hl : Short n l) :
    Short (n + 1) (c :: l) :=
  ⟨fun d hd => by
    rcases List.mem_cons.1 hd with rfl | hd
    · exact hc
    · exact hl.1 d hd, Nat.succ_le_succ hl.2⟩

theorem Short.withoutLineEnd {n : Nat} {l : List Char} (h : Short n l) : Short n (withoutLineEnd l) := by
  have hsublist : (Instant.withoutLineEnd l).Sublist l := by
    have hrest := (List.dropWhile_sublist (l := l.reverse) fun c => c == '\n' || c == '\r').reverse
    rwa [List.reverse_reverse] at hrest
  exact ⟨fun c hc => h.1 c (hsublist.subset hc), Nat.le_trans hsublist.length_le h.2⟩

theorem Short.byteLength_le {n : Nat} {l : List Char} (h : Short n l) :
    byteLength (String.ofList l) ≤ n := by
  rw [byteLength, textBytes_ofList, Utf8.encode_ascii h.1, List.length_map]
  exact h.2

theorem short_padded {fill : Char} (hfill : fill.val.toNat < 0x80) {width n k : Nat} (hpos : 0 < k)
    (hwidth : width ≤ k) (hn : n < Nat.pow 10 k) : Short k (padded fill width n) := by
  have hdigits := (Nat.length_toDigits_le_iff (b := 10) (by decide) hpos).2 hn
  refine ⟨fun c hc => ?_, ?_⟩
  · rcases mem_padded hc with rfl | hdigit
    · exact hfill
    · simp only [Char.isDigit, Bool.and_eq_true, decide_eq_true_eq, ge_iff_le,
        UInt32.le_iff_toNat_le] at hdigit
      exact Nat.lt_of_le_of_lt hdigit.2 (by decide)
  · rw [padded, List.length_append, List.length_replicate]
    omega

theorem short_yearText {year : Int} (h : year.natAbs < 1000000) : Short 7 (yearText year) := by
  rw [yearText]
  -- years of four digits stand bare, all others carry a sign
  split
  · have hsmall : year.toNat < 10000 := by omega
    have hfour : Short 4 (padded '0' 4 year.toNat) :=
      short_padded (by decide) (by decide) (by decide) hsmall
    exact ⟨hfour.1, Nat.le_trans hfour.2 (by decide)⟩
  · refine Short.cons (by split <;> decide) ?_
    exact short_padded (by decide) (by decide) (by decide) h

/-- A name from a list of short names, or the empty one behind its end, is short. -/
theorem short_getD {names : List String} {n : Nat} (h : ∀ name ∈ names, Short n name.toList) (i : Nat) :
    Short n (names.getD i "").toList := by
  rw [List.getD_eq_getElem?_getD]
  cases hi : names[i]? with
  | none => exact ⟨fun _ hc => absurd hc List.not_mem_nil, Nat.zero_le _⟩
  | some name => exact h name (List.mem_of_getElem? hi)

/-- Whether all names of a list are short. -/
def shortNames (n : Nat) (names : List String) : Bool :=
  names.all fun name => name.toList.all (fun c => decide (c.val.toNat < 0x80)) && name.toList.length ≤ n

theorem short_of_shortNames {n : Nat} {names : List String} (h : shortNames n names = true) :
    ∀ name ∈ names, Short n name.toList := by
  intro name hname
  obtain ⟨hascii, hlength⟩ := Bool.and_eq_true_iff.1 (List.all_eq_true.1 h name hname)
  exact ⟨fun c hc => of_decide_eq_true (List.all_eq_true.1 hascii c hc), of_decide_eq_true hlength⟩

theorem short_weekdayNames : ∀ name ∈ weekdayNames, Short 3 name.toList :=
  short_of_shortNames (by decide)

theorem short_monthNames : ∀ name ∈ monthNames, Short 3 name.toList :=
  short_of_shortNames (by decide)

/-! ## The line -/

theorem short_two {n : Nat} (h : n < 100) : Short 2 (two n) :=
  short_padded (by decide) (by decide) (by decide) h

theorem short_lineChars (t : Instant) : Short 27 t.lineChars := by
  obtain ⟨hhour, hminute, hsecond, -⟩ := t.clock_reading
  obtain ⟨-, -, -, hday⟩ := t.date_reading
  have hday' : Short 2 (padded ' ' 2 t.reading.date.day) :=
    short_padded (by decide) (by decide) (by decide) (by show _ < 100; omega)
  have hhour' : Short 2 (two t.reading.hour) := short_two (by omega)
  have hminute' : Short 2 (two t.reading.minute) := short_two (by omega)
  have hsecond' : Short 2 (two t.reading.second) := short_two (by omega)
  have hyear := short_yearText t.natAbs_year_reading
  -- the line as it is written: weekday, month, day, clock and year, with what separates them
  exact (((((short_getD short_weekdayNames t.reading.weekday).append
    ((short_getD short_monthNames (t.reading.date.month - 1)).cons (c := ' ') (by decide))).append
    (hday'.cons (c := ' ') (by decide))).append
    (hhour'.cons (c := ' ') (by decide))).append
    (hminute'.cons (c := ':') (by decide))).append
    (hsecond'.cons (c := ':') (by decide)) |>.append (hyear.cons (c := ' ') (by decide))

theorem length_line_le (t : Instant) : byteLength t.line ≤ mostDate :=
  Nat.le_trans t.short_lineChars.withoutLineEnd.byteLength_le (by decide)

end Instant

end ModelProtection
