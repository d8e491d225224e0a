/-
The line of a license tells its second.

All columns of a line have a fixed width but the year, and the year comes last. So two
lines are the same if and only if they are the same column by column, and a column tells
the part of the reading that it shows. The date tells the day, because the calendar finds
the day again (`Calendar.dateOf_injective`); the clock tells the second of the day, and
a second of 60 sets a leap second apart from the one in front of it
(`second_eq_sixty_iff`). The day of the week adds nothing.
-/
import ModelProtection.Proofs.Protect.Capacity
import ModelProtection.Proofs.Time.Line
import ModelProtection.Proofs.Time.Timestamp

set_option autoImplicit false

namespace ModelProtection

namespace Instant

variable {s t : Instant} {width m n : Nat} {fill : Char}

/-! ## Numbers -/

theorem ofDigitChars_replicate (hfill : fill.toNat ≤ '0'.toNat) (k : Nat) :
    Nat.ofDigitChars 10 (List.replicate k fill) 0 = 0 := by
  induction k with
  | zero => rfl
  | succ k ih =>
    rw [List.replicate_succ, Nat.ofDigitChars_cons, Nat.sub_eq_zero_of_le hfill]
    exact ih

/-- Blanks in front of a number count as little as zeros do. -/
theorem padded_injective (hfill : fill.toNat ≤ '0'.toNat)
    (h : padded fill width m = padded fill width n) : m = n := by
  have hvalue : ∀ k, Nat.ofDigitChars 10 (padded fill width k) 0 = k := by
    intro k
    rw [padded, Nat.ofDigitChars_append, ofDigitChars_replicate hfill]
    simp
  rw [← hvalue m, h, hvalue n]

theorem le_length_padded : width ≤ (padded fill width n).length := by
  rw [padded, List.length_append, List.length_replicate]
  omega

theorem isPlain_padded (hfill : Json.isPlain fill = true) :
    ∀ c ∈ padded fill width n, Json.isPlain c = true := by
  intro c hc
  rcases mem_padded hc with rfl | hdigit
  · exact hfill
  · apply isPlain_of_isDigit
    simp only [Char.isDigit, Bool.and_eq_true, decide_eq_true_eq] at hdigit
    simp only [Hex.isDigit, Bool.or_eq_true, Bool.and_eq_true, decide_eq_true_eq]
    exact .inl (.inl hdigit)

theorem yearText_injective {y y' : Int} (hy : y.natAbs < 1000000) (hy' : y'.natAbs < 1000000)
    (h : yearText y = yearText y') : y = y' := by
  have hstops : Timestamp.Stops [] := rfl
  have hread := Timestamp.year_yearText hy hstops
  rw [h, Timestamp.year_yearText hy' hstops] at hread
  cases hread
  rfl

/-- A year with a sign is longer than one without. -/
theorem length_yearText_eq_four_iff {y : Int} : (yearText y).length = 4 ↔ 0 ≤ y ∧ y ≤ 9999 := by
  unfold yearText
  by_cases hbare : 0 ≤ y ∧ y ≤ 9999
  · rw [if_pos hbare, Timestamp.length_padded (by decide) (by show _ < 10000; omega)]
    exact iff_of_true rfl hbare
  · have hlength : 4 ≤ (padded '0' 4 y.natAbs).length := le_length_padded
    rw [if_neg hbare, List.length_cons]
    exact iff_of_false (by omega) hbare

theorem isPlain_yearText {y : Int} : ∀ c ∈ yearText y, Json.isPlain c = true := by
  unfold yearText
  split
  · exact isPlain_padded (by decide)
  · rw [List.forall_mem_cons]
    exact ⟨by split <;> decide, isPlain_padded (by decide)⟩

/-! ## Names -/

theorem weekday_reading (t : Instant) : t.reading.weekday < 7 := by
  show ((t.seconds / daySeconds + 4) % 7).toNat < 7
  omega

theorem weekdayName : ∀ i < 7, (weekdayNames.getD i "").toList.length = 3
    ∧ (weekdayNames.getD i "").toList.all Json.isPlain = true := by
  decide

theorem monthName : ∀ i < 12, (monthNames.getD i "").toList.length = 3
    ∧ (monthNames.getD i "").toList.all Json.isPlain = true := by
  decide

theorem monthName_injective : ∀ i < 12, ∀ j < 12,
    (monthNames.getD i "").toList = (monthNames.getD j "").toList → i = j := by
  decide

/-! ## Seconds -/

/-- Two instants lie in the same second of universal time. A leap second is a second of its own. -/
structure SameSecond (s t : Instant) : Prop where
  seconds_eq : s.seconds = t.seconds
  leap_iff : billion ≤ s.nanos ↔ billion ≤ t.nanos

theorem second_eq_sixty_iff : t.reading.second = 60 ↔ billion ≤ t.nanos := by
  obtain ⟨-, -, -, hfraction⟩ := t.clock_reading
  have hnanos := t.second_reading.2
  by_cases hsixty : t.reading.second = 60
  · rw [if_pos hsixty] at hnanos
    exact iff_of_true hsixty (by omega)
  · rw [if_neg hsixty] at hnanos
    exact iff_of_false hsixty (by omega)

/-- A second is known by its date and its time of day. -/
theorem sameSecond_iff :
    SameSecond s t ↔ s.reading.date = t.reading.date ∧ s.reading.hour = t.reading.hour
      ∧ s.reading.minute = t.reading.minute ∧ s.reading.second = t.reading.second := by
  constructor
  · rintro ⟨hseconds, hleap⟩
    have hsecond : s.reading.second = t.reading.second := by
      have hs := s.nanos_lt
      have ht := t.nanos_lt
      show (s.seconds % daySeconds).toNat % 60 + s.nanos / billion
        = (t.seconds % daySeconds).toNat % 60 + t.nanos / billion
      rw [hseconds]
      unfold billion at *
      omega
    refine ⟨?_, ?_, ?_, hsecond⟩
    · show Calendar.dateOf (s.seconds / daySeconds) = _
      rw [hseconds]
      rfl
    · show (s.seconds % daySeconds).toNat / 3600 = _
      rw [hseconds]
      rfl
    · show (s.seconds % daySeconds).toNat / 60 % 60 = _
      rw [hseconds]
      rfl
  · rintro ⟨hdate, hhour, hminute, hsecond⟩
    constructor
    · have hday : s.seconds / daySeconds = t.seconds / daySeconds := Calendar.dateOf_injective hdate
      have htime := s.second_reading.1
      rw [hhour, hminute, hsecond, t.second_reading.1] at htime
      rw [← Int.ediv_mul_add_emod s.seconds daySeconds, hday, ← htime, Int.ediv_mul_add_emod]
    · rw [← second_eq_sixty_iff, hsecond, second_eq_sixty_iff]

/-! ## The line -/

theorem isPlain_lineChars (t : Instant) : ∀ c ∈ t.lineChars, Json.isPlain c = true := by
  obtain ⟨hfirst, hlast, -, -⟩ := t.date_reading
  have hweekday := List.all_eq_true.1 (weekdayName _ t.weekday_reading).2
  have hmonth := List.all_eq_true.1 (monthName (t.reading.date.month - 1) (by omega)).2
  have htwo : ∀ n, ∀ c ∈ two n, Json.isPlain c = true := fun n => isPlain_padded (by decide)
  have hday : ∀ c ∈ padded ' ' 2 t.reading.date.day, Json.isPlain c = true :=
    isPlain_padded (by decide)
  simp only [lineChars, List.forall_mem_append, List.forall_mem_cons]
  exact ⟨⟨⟨⟨⟨⟨hweekday, by decide, hmonth⟩, by decide, hday⟩, by decide, htwo _⟩, by decide, htwo _⟩,
    by decide, htwo _⟩, by decide, isPlain_yearText⟩

/-- There is no line end to take off. -/
theorem line_eq (t : Instant) : t.line = String.ofList t.lineChars := by
  have hkeep : withoutLineEnd t.lineChars = t.lineChars := by
    unfold withoutLineEnd
    cases hreverse : t.lineChars.reverse with
    | nil => exact (List.reverse_eq_nil_iff.1 hreverse).symm
    | cons c l =>
      have hc : c ∈ t.lineChars := by
        rw [← List.mem_reverse, hreverse]
        exact List.mem_cons_self
      rw [List.dropWhile_cons_of_neg, ← hreverse, List.reverse_reverse]
      intro hend
      have hplain := t.isPlain_lineChars c hc
      rcases Bool.or_eq_true_iff.1 hend with h | h
      · rw [eq_of_beq h] at hplain
        cases hplain
      · rw [eq_of_beq h] at hplain
        cases hplain
  rw [line, hkeep]

/-- The widths of the columns of a line. -/
structure Columns (t : Instant) : Prop where
  weekday : (weekdayNames.getD t.reading.weekday "").toList.length = 3
  month : (monthNames.getD (t.reading.date.month - 1) "").toList.length = 3
  day : (padded ' ' 2 t.reading.date.day).length = 2
  hour : (two t.reading.hour).length = 2
  minute : (two t.reading.minute).length = 2
  second : (two t.reading.second).length = 2

theorem columns (t : Instant) : Columns t := by
  obtain ⟨hhour, hminute, hsecond, -⟩ := t.clock_reading
  obtain ⟨hfirst, hlast, -, hday⟩ := t.date_reading
  have htwo : ∀ {fill : Char} {n : Nat}, n < 100 → (padded fill 2 n).length = 2 := fun h =>
    Timestamp.length_padded (by decide) h
  exact ⟨(weekdayName _ t.weekday_reading).1, (monthName _ (by omega)).1, htwo (by omega),
    htwo (by omega), htwo (by omega), htwo (by omega)⟩

theorem length_lineChars (t : Instant) :
    t.lineChars.length = 20 + (yearText t.reading.date.year).length := by
  obtain ⟨hweekday, hmonth, hday, hhour, hminute, hsecond⟩ := t.columns
  simp only [lineChars, List.length_append, List.length_cons, hweekday, hmonth, hday, hhour, hminute,
    hsecond]
  omega

/-- What stands in front of a column of the same width is the same, and so is what stands behind. -/
theorem column {a b l l' : List Char} {c : Char} (hwidth : a.length = b.length)
    (h : a ++ c :: l = b ++ c :: l') : a = b ∧ l = l' := by
  obtain ⟨hfront, hrest⟩ := List.append_inj h hwidth
  exact ⟨hfront, (List.cons.inj hrest).2⟩

theorem reading_of_lineChars (h : s.lineChars = t.lineChars) :
    s.reading.date = t.reading.date ∧ s.reading.hour = t.reading.hour
      ∧ s.reading.minute = t.reading.minute ∧ s.reading.second = t.reading.second := by
  obtain ⟨hweekday, hmonth, hday, hhour, hminute, hsecond⟩ := s.columns
  obtain ⟨hweekday', hmonth', hday', hhour', hminute', hsecond'⟩ := t.columns
  simp only [lineChars, List.append_assoc, List.cons_append] at h
  obtain ⟨-, h⟩ := column (hweekday.trans hweekday'.symm) h
  obtain ⟨hmonths, h⟩ := column (hmonth.trans hmonth'.symm) h
  obtain ⟨hdays, h⟩ := column (hday.trans hday'.symm) h
  obtain ⟨hhours, h⟩ := column (hhour.trans hhour'.symm) h
  obtain ⟨hminutes, h⟩ := column (hminute.trans hminute'.symm) h
  obtain ⟨hseconds, hyears⟩ := column (hsecond.trans hsecond'.symm) h
  refine ⟨?_, padded_injective (by decide) hhours, padded_injective (by decide) hminutes,
    padded_injective (by decide) hseconds⟩
  obtain ⟨hfirst, hlast, -, -⟩ := s.date_reading
  obtain ⟨hfirst', hlast', -, -⟩ := t.date_reading
  have hyear := yearText_injective s.natAbs_year_reading t.natAbs_year_reading hyears
  have hmonth := monthName_injective _ (by omega) _ (by omega) hmonths
  have hday := padded_injective (by decide) hdays
  rcases hs : s.reading.date with ⟨year, month, day⟩
  rcases ht : t.reading.date with ⟨year', month', day'⟩
  simp only [hs, ht] at hyear hmonth hday hfirst hfirst'
  rw [hyear, hday, show month = month' by omega]

theorem line_eq_iff : s.line = t.line ↔ SameSecond s t := by
  rw [line_eq, line_eq]
  constructor
  · intro h
    exact sameSecond_iff.2 (reading_of_lineChars (String.ofList_injective h))
  · intro h
    obtain ⟨hdate, hhour, hminute, hsecond⟩ := sameSecond_iff.1 h
    have hweekday : s.reading.weekday = t.reading.weekday := by
      show Calendar.weekday (s.seconds / daySeconds) = _
      rw [h.seconds_eq]
      rfl
    unfold lineChars
    dsimp only
    rw [hweekday, hdate, hhour, hminute, hsecond]

end Instant

theorem licenseCapacity_eq_error {n : Nat} {e : ProtectError} (h : licenseCapacity n = .error e) :
    e = .allocation .licenseSize := by
  rw [licenseCapacity_eq] at h
  split at h
  · cases h
  · cases h
    rfl

namespace LicenseDocument

variable {d : LicenseDocument}

theorem lt_of_validate (h : d.validate = .error (.parameter .dateTooLong)) :
    mostDate < byteLength d.creationDate := by
  unfold validate at h
  split at h
  · cases h
  split at h
  · cases h
  split at h
  · rename_i hlong
    exact hlong
  · cases h

/-- A license is refused for its date only if that is too long: the steps behind the check have errors
of other classes. -/
theorem lt_of_toBytes (h : d.toBytes = .error (.parameter .dateTooLong)) :
    mostDate < byteLength d.creationDate := by
  cases hvalid : d.validate with
  | error e =>
    rw [toBytes, hvalid] at h
    cases h
    exact lt_of_validate hvalid
  | ok =>
    cases hcapacity : licenseCapacity (byteLength d.certificate) with
    | error e =>
      rw [toBytes, hvalid] at h
      change licenseCapacity (byteLength d.certificate) >>= _ = _ at h
      rw [hcapacity, licenseCapacity_eq_error hcapacity] at h
      cases h
    | ok capacity =>
      rw [toBytes_eq hvalid hcapacity, Json.writeBounded_eq] at h
      split at h
      · cases h
      split at h
      · cases h
      · cases h

end LicenseDocument

/-- **A license tells the second of its making.** The date of a license is at most 27 bytes, all of
them printable ASCII characters that a string of a document shows as they are, and none of them ends a
line; it is 24 bytes exactly in the years from 0 to 9999. No license is refused for such a date. Two
instants have the same date if and only if they lie in the same second, where a leap second is one of its
own. -/
theorem license_date_tells_second (t : Instant) :
    (∀ c ∈ t.line.toList, 0x20 ≤ c.toNat ∧ c.toNat < 0x80 ∧ Json.escapeChar c = [c])
      ∧ byteLength t.line ≤ 27
      ∧ (byteLength t.line = 24 ↔ 0 ≤ t.reading.date.year ∧ t.reading.date.year ≤ 9999)
      ∧ (∀ d : LicenseDocument, d.creationDate = t.line → d.toBytes ≠ .error (.parameter .dateTooLong))
      ∧ ∀ t' : Instant, t.line = t'.line
        ↔ t.seconds = t'.seconds ∧ (Instant.billion ≤ t.nanos ↔ Instant.billion ≤ t'.nanos) := by
  have hchars : t.line.toList = t.lineChars := by
    rw [t.line_eq, String.toList_ofList]
  have hlength : byteLength t.line = t.lineChars.length := by
    rw [byteLength, textBytes, hchars, Utf8.encode_ascii t.short_lineChars.1, List.length_map]
  refine ⟨?_, by rw [hlength]; exact t.short_lineChars.2, ?_, ?_, ?_⟩
  · intro c hc
    rw [hchars] at hc
    have hplain := t.isPlain_lineChars c hc
    have hprintable : 0x20 ≤ c.toNat := by
      simp only [Json.isPlain, Bool.and_eq_true, decide_eq_true_eq] at hplain
      exact hplain.2
    exact ⟨hprintable, t.short_lineChars.1 c hc, Json.escapeChar_eq_self hplain⟩
  · rw [hlength, t.length_lineChars, ← Instant.length_yearText_eq_four_iff]
    omega
  · intro d hdate hrefused
    have hlong := LicenseDocument.lt_of_toBytes hrefused
    rw [hdate] at hlong
    exact absurd t.length_line_le (Nat.not_le_of_lt hlong)
  · intro t'
    rw [Instant.line_eq_iff]
    exact ⟨fun h => ⟨h.seconds_eq, h.leap_iff⟩, fun h => ⟨h.1, h.2⟩⟩

end ModelProtection
