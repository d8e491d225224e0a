/-
A timestamp is read as the instant that it was written for.

The reader is generous, but what the library writes leaves it no choice: every
number is followed by a character that is no digit, so it is taken as a whole
(`number_append`), and no white space stands anywhere. What is read is a date, a
time of day and a fraction, and the instant that is put together from those is
the one that they were taken from: the calendar gives back the day
(`Calendar.dayOf?_dateOf`), and a second of 60 brings the leap second back. That
holds of every instant, in years of any sign and with any fraction, because the
fraction is written in the fewest digits that are exact.
-/
import ModelProtection.Proofs.Time.Reading
import ModelProtection.Time.Timestamp

set_option autoImplicit false

namespace ModelProtection

namespace Timestamp

open Instant

/-! ## Numbers -/

/-- A text that does not go on with a digit. -/
def Stops (l : Rest) : Prop := l.takeWhile isDigit = []

theorem stops_cons {c : Char} (h : isDigit c = false) (l : Rest) : Stops (c :: l) :=
  List.takeWhile_cons_of_neg (by rw [h]; decide)

/-- The number that some digits stand for. -/
def valueOf (digits : List Char) : Nat := digits.foldl (fun n c => n * 10 + digitValue c) 0

theorem valueOf_eq (digits : List Char) : valueOf digits = Nat.ofDigitChars 10 digits 0 := by
  simp only [valueOf, digitValue, Nat.ofDigitChars, Nat.mul_comm 10]

theorem isDigit_of_isDigit {c : Char} (h : c.isDigit = true) : isDigit c = true := by
  simp only [Char.isDigit, Bool.and_eq_true, decide_eq_true_eq] at h
  exact Bool.and_eq_true_iff.2 ⟨decide_eq_true h.1, decide_eq_true h.2⟩

theorem isDigit_padded {width n : Nat} {c : Char} (h : c ∈ padded '0' width n) : isDigit c = true := by
  rcases mem_padded h with rfl | h
  · decide
  · exact isDigit_of_isDigit h

theorem valueOf_padded (width n : Nat) : valueOf (padded '0' width n) = n := by
  rw [valueOf_eq, padded, Nat.ofDigitChars_append, Nat.ofDigitChars_replicate_zero]
  simp

theorem length_padded {fill : Char} {width n : Nat} (hpos : 0 < width) (h : n < Nat.pow 10 width) :
    (padded fill width n).length = width := by
  have hdigits := (Nat.length_toDigits_le_iff (b := 10) (by decide) hpos).2 h
  rw [padded, List.length_append, List.length_replicate]
  omega

theorem padded_ne_nil (width n : Nat) : padded '0' width n ≠ [] := by
  simp [padded]

/-- Digits are taken as a whole if they are no more than are asked for and no digit follows. -/
theorem number_append {most : Option Nat} {digits rest : List Char} (hne : digits ≠ [])
    (hdigits : ∀ c ∈ digits, isDigit c = true) (hrest : Stops rest)
    (hmost : ∀ n, most = some n → digits.length ≤ n) (hvalue : valueOf digits ≤ mostNumber) :
    number most (digits ++ rest) = .ok (valueOf digits, rest) := by
  have hrun : (digits ++ rest).takeWhile isDigit = digits := by
    rw [List.takeWhile_append_of_pos hdigits, hrest, List.append_nil]
  obtain ⟨c, l, rfl⟩ := List.exists_cons_of_ne_nil hne
  have hc : isDigit c = true := hdigits c List.mem_cons_self
  have hfold : (c :: l).foldl (fun n c => n * 10 + digitValue c) 0 = valueOf (c :: l) := rfl
  have hsmall : ¬ mostNumber < valueOf (c :: l) := Nat.not_lt_of_le hvalue
  rw [List.cons_append] at hrun ⊢
  rw [number, hrun, hc, Bool.not_true, if_neg Bool.false_ne_true]
  cases most with
  | none =>
    dsimp only
    rw [hfold, if_neg hsmall, ← List.cons_append, List.drop_left]
  | some n =>
    dsimp only
    rw [List.take_of_length_le (hmost n rfl), hfold, if_neg hsmall, ← List.cons_append,
      List.drop_left]

theorem number_padded {most : Option Nat} {width n : Nat} {rest : Rest} (hpos : 0 < width)
    (hn : n < Nat.pow 10 width) (hwidth : width ≤ 9) (hrest : Stops rest)
    (hmost : ∀ m, most = some m → width ≤ m) :
    number most (padded '0' width n ++ rest) = .ok (n, rest) := by
  have hvalue : valueOf (padded '0' width n) ≤ mostNumber := by
    rw [valueOf_padded]
    have hpow : Nat.pow 10 width ≤ Nat.pow 10 9 := Nat.pow_le_pow_right (by decide) hwidth
    have hbound : Nat.pow 10 9 ≤ mostNumber := by decide
    omega
  have hread := number_append (padded_ne_nil width n) (fun c => isDigit_padded) hrest
    (fun m hm => by rw [length_padded hpos hn]; exact hmost m hm) hvalue
  rwa [valueOf_padded] at hread

/-! ## Parts of a timestamp -/

theorem trimStart_cons {c : Char} (h : Space.isSpace c = false) (l : Rest) :
    Space.trimStart (c :: l) = c :: l :=
  List.dropWhile_cons_of_neg (by rw [h]; decide)

theorem isSpace_of_isDigit {c : Char} (h : isDigit c = true) : Space.isSpace c = false := by
  simp only [isDigit, Bool.and_eq_true, decide_eq_true_eq, Char.le_def, UInt32.le_iff_toNat_le] at h
  have h0 : ('0' : Char).val.toNat = 48 := rfl
  have h9 : ('9' : Char).val.toNat = 57 := rfl
  have hc : c.toNat = c.val.toNat := rfl
  simp only [Space.isSpace, hc]
  simp
  omega

theorem trimStart_padded (width n : Nat) (rest : Rest) :
    Space.trimStart (padded '0' width n ++ rest) = padded '0' width n ++ rest := by
  obtain ⟨c, l, hcons⟩ := List.exists_cons_of_ne_nil (padded_ne_nil width n)
  have hmem : c ∈ padded '0' width n := by
    rw [hcons]
    exact List.mem_cons_self
  have hc := isDigit_padded hmem
  rw [hcons, List.cons_append, trimStart_cons (isSpace_of_isDigit hc)]

theorem field_two {low high n : Nat} {rest : Rest} (hlow : low ≤ n) (hhigh : n ≤ high)
    (hn : n < 100) (hrest : Stops rest) : field low high (two n ++ rest) = .ok (n, rest) := by
  have hread : number (some 2) (two n ++ rest) = .ok (n, rest) :=
    number_padded (by decide) hn (by decide) hrest fun m hm => by cases hm; exact Nat.le_refl _
  rw [field, two, trimStart_padded, ← two, hread]
  simp only [bind, Except.bind]
  rw [if_pos ⟨hlow, hhigh⟩]
  rfl

theorem separator_cons {c : Char} (h : Space.isSpace c = false) (rest : Rest) :
    separator c (c :: rest) = .ok rest := by
  rw [separator, trimStart_cons h]
  exact if_pos rfl

section Year

variable {n : Nat} {l rest : Rest}

theorem year_minus (h : number none l = .ok (n, rest)) (hn : n < 1000000) :
    year ('-' :: l) = .ok (-(n : Int), rest) := by
  have hbounds : -mostYear - 1 ≤ -(n : Int) ∧ -(n : Int) ≤ mostYear := by
    unfold mostYear
    omega
  rw [year, trimStart_cons (by decide)]
  simp only [h, Except.map, bind, Except.bind]
  rw [if_pos hbounds]
  rfl

theorem year_plus (h : number none l = .ok (n, rest)) (hn : n < 1000000) :
    year ('+' :: l) = .ok ((n : Int), rest) := by
  have hbounds : -mostYear - 1 ≤ (n : Int) ∧ (n : Int) ≤ mostYear := by
    unfold mostYear
    omega
  rw [year, trimStart_cons (by decide)]
  simp only [h, Except.map, bind, Except.bind]
  rw [if_pos hbounds]
  rfl

theorem year_digit {c : Char} (hc : isDigit c = true) (h : number (some 4) (c :: l) = .ok (n, rest))
    (hn : n < 1000000) : year (c :: l) = .ok ((n : Int), rest) := by
  have hbounds : -mostYear - 1 ≤ (n : Int) ∧ (n : Int) ≤ mostYear := by
    unfold mostYear
    omega
  rw [year, trimStart_cons (isSpace_of_isDigit hc)]
  dsimp only
  -- a digit is neither of the two signs
  split
  · rename_i heq
    cases heq
    exact absurd hc (by decide)
  · rename_i heq
    cases heq
    exact absurd hc (by decide)
  · simp only [h, Except.map, bind, Except.bind]
    rw [if_pos hbounds]
    rfl

/-- A year is taken with its sign, or as four digits without one. -/
theorem year_yearText {y : Int} (hy : y.natAbs < 1000000) (hrest : Stops rest) :
    year (yearText y ++ rest) = .ok (y, rest) := by
  unfold yearText
  by_cases hfour : 0 ≤ y ∧ y ≤ 9999
  · have hread : number (some 4) (padded '0' 4 y.toNat ++ rest) = .ok (y.toNat, rest) :=
      number_padded (by decide) (by show y.toNat < 10000; omega) (by decide) hrest
        fun m hm => by cases hm; exact Nat.le_refl _
    obtain ⟨c, l, hcons⟩ := List.exists_cons_of_ne_nil (padded_ne_nil 4 y.toNat)
    have hmem : c ∈ padded '0' 4 y.toNat := by
      rw [hcons]
      exact List.mem_cons_self
    have hc := isDigit_padded hmem
    rw [if_pos hfour]
    rw [hcons, List.cons_append] at hread ⊢
    rw [year_digit hc hread (by omega), Int.toNat_of_nonneg hfour.1]
  · -- behind a sign any number of digits is taken
    have hvalue : valueOf (padded '0' 4 y.natAbs) ≤ mostNumber := by
      rw [valueOf_padded]
      exact Nat.le_trans (Nat.le_of_lt hy) (by decide)
    have hread : number none (padded '0' 4 y.natAbs ++ rest)
        = .ok (valueOf (padded '0' 4 y.natAbs), rest) :=
      number_append (padded_ne_nil 4 y.natAbs) (fun c => isDigit_padded) hrest nofun hvalue
    rw [valueOf_padded] at hread
    rw [if_neg hfour, List.cons_append]
    by_cases hneg : y < 0
    · rw [if_pos hneg, year_minus hread hy]
      congr 2
      omega
    · rw [if_neg hneg, year_plus hread hy]
      congr 2
      omega

end Year

/-- A fraction of `width` digits is taken as nanoseconds. -/
theorem fraction_padded {width n : Nat} {rest : Rest} (hpos : 0 < width) (hwidth : width ≤ 9)
    (hn : n < Nat.pow 10 width) (hrest : Stops rest) :
    fraction ('.' :: padded '0' width n ++ rest) = .ok (n * Nat.pow 10 (9 - width), rest) := by
  have hread : number (some 9) (padded '0' width n ++ rest) = .ok (n, rest) :=
    number_padded hpos hn hwidth hrest fun m hm => by cases hm; exact hwidth
  have hdrop : rest.dropWhile isDigit = rest := by
    cases rest with
    | nil => rfl
    | cons c l =>
      rw [List.dropWhile_cons_of_neg]
      intro hc
      rw [Stops, List.takeWhile_cons_of_pos hc] at hrest
      cases hrest
  rw [List.cons_append, fraction]
  simp only [hread, bind, Except.bind, List.length_append, length_padded hpos hn,
    Nat.add_sub_cancel, hdrop]
  rfl

/-- A fraction is exact in the digits that it is written in. -/
theorem fraction_fractionText {nanos : Nat} {rest : Rest} (hnanos : nanos < billion)
    (hrest : Stops rest) (hpoint : rest.head? ≠ some '.') :
    fraction (fractionText nanos ++ rest) = .ok (nanos, rest) := by
  unfold billion at hnanos
  unfold fractionText
  by_cases hzero : nanos = 0
  · rw [if_pos hzero, List.nil_append, hzero]
    cases rest with
    | nil => rfl
    | cons c l =>
      rw [fraction]
      intro m hm
      cases hm
      exact hpoint rfl
  rw [if_neg hzero]
  by_cases hmilli : nanos % 1000000 = 0
  · have hvalue : nanos / 1000000 * Nat.pow 10 (9 - 3) = nanos := by
      show nanos / 1000000 * 1000000 = nanos
      omega
    rw [if_pos hmilli, fraction_padded (by decide) (by decide) (by show _ < 1000; omega) hrest, hvalue]
  rw [if_neg hmilli]
  by_cases hmicro : nanos % 1000 = 0
  · have hvalue : nanos / 1000 * Nat.pow 10 (9 - 6) = nanos := by
      show nanos / 1000 * 1000 = nanos
      omega
    rw [if_pos hmicro, fraction_padded (by decide) (by decide) (by show _ < 1000000; omega) hrest,
      hvalue]
  · have hvalue : nanos * Nat.pow 10 (9 - 9) = nanos := Nat.mul_one nanos
    rw [if_neg hmicro, fraction_padded (by decide) (by decide) hnanos hrest, hvalue]

/-! ## Instants -/

/-- An instant is put together from its date, its time of day and its fraction. -/
theorem assemble_reading (t : Instant) :
    assemble t.reading.date t.reading.hour t.reading.minute t.reading.second t.reading.fraction 0
      = .ok t := by
  obtain ⟨hfirst, hlast⟩ := year_reading t
  obtain ⟨hclock, hnanos⟩ := second_reading t
  have hday : Calendar.dayOf? t.reading.date = some (t.seconds / daySeconds) :=
    Calendar.dayOf?_dateOf _
  have hseconds : t.seconds / daySeconds * daySeconds + t.seconds % daySeconds - 0 * 60
      = t.seconds := by
    unfold daySeconds
    omega
  have hof : of? t.seconds t.nanos = some t := by
    rw [of?, dif_pos ⟨t.nanos_lt, t.minute_end, t.first_le, t.le_last⟩]
  have hinside : ¬ (t.reading.date.year < firstYear ∨ lastYear < t.reading.date.year) := by omega
  unfold assemble
  simp only [hinside, if_false, hday, hclock, hnanos, hseconds, hof]
  rfl

theorem stops_fractionText (nanos : Nat) : Stops (fractionText nanos ++ ['Z']) := by
  unfold fractionText
  by_cases hzero : nanos = 0
  · rw [if_pos hzero]
    exact stops_cons (by decide) _
  rw [if_neg hzero]
  split
  · exact stops_cons (by decide) _
  split
  · exact stops_cons (by decide) _
  · exact stops_cons (by decide) _

/-- What is written of an instant is read as the parts that it was written from. -/
theorem parseChars_timestampChars (t : Instant) : parseChars t.timestampChars = .ok t := by
  obtain ⟨hhourLe, hminuteLe, hsecondLe, hnanos⟩ := clock_reading t
  obtain ⟨hmonthPos, hmonthLe, hdayPos, hdayLe⟩ := date_reading t
  -- each part is taken from the front, whatever comes behind the character that follows it
  have hyear : ∀ l, year (yearText t.reading.date.year ++ '-' :: l) = .ok (t.reading.date.year, '-' :: l) :=
    fun l => year_yearText (natAbs_year_reading t) (stops_cons (by decide) l)
  have hmonth : ∀ l, field 1 12 (two t.reading.date.month ++ '-' :: l)
      = .ok (t.reading.date.month, '-' :: l) :=
    fun l => field_two hmonthPos hmonthLe (by omega) (stops_cons (by decide) l)
  have hday : ∀ l, field 1 31 (two t.reading.date.day ++ 'T' :: l)
      = .ok (t.reading.date.day, 'T' :: l) :=
    fun l => field_two hdayPos hdayLe (by omega) (stops_cons (by decide) l)
  have hhour : ∀ l, field 0 23 (two t.reading.hour ++ ':' :: l) = .ok (t.reading.hour, ':' :: l) :=
    fun l => field_two (Nat.zero_le _) hhourLe (by omega) (stops_cons (by decide) l)
  have hminute : ∀ l, field 0 59 (two t.reading.minute ++ ':' :: l)
      = .ok (t.reading.minute, ':' :: l) :=
    fun l => field_two (Nat.zero_le _) hminuteLe (by omega) (stops_cons (by decide) l)
  have hsecond : field 0 60 (two t.reading.second ++ (fractionText t.reading.fraction ++ ['Z']))
      = .ok (t.reading.second, fractionText t.reading.fraction ++ ['Z']) :=
    field_two (Nat.zero_le _) hsecondLe (by omega) (stops_fractionText _)
  have hfraction : fraction (fractionText t.reading.fraction ++ ['Z'])
      = .ok (t.reading.fraction, ['Z']) :=
    fraction_fractionText hnanos (stops_cons (by decide) _) (by decide)
  have hhyphen : ∀ l, separator '-' ('-' :: l) = .ok l := fun l => separator_cons (by decide) l
  have hcolon : ∀ l, separator ':' (':' :: l) = .ok l := fun l => separator_cons (by decide) l
  have hoffset : offset (Space.trimStart ['Z']) = .ok (0, []) := rfl
  have hend : Space.trimStart [] = [] := rfl
  simp only [parseChars, timestampChars, dateText, timeText, List.append_assoc, List.cons_append,
    hyear, hmonth, hday, hhour, hminute, hsecond, hfraction, hhyphen, hcolon, hoffset, hend, bind,
    Except.bind, pure, Except.pure, true_or, or_true, if_true, ne_eq, not_true_eq_false, if_false]
  exact assemble_reading t

theorem parse_timestamp (t : Instant) : parse t.timestamp = .ok t := by
  rw [parse, timestamp, String.toList_ofList, parseChars_timestampChars]

end Timestamp

end ModelProtection
