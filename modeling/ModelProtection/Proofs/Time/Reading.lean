/-
What clock and calendar show.

Every part of a reading is within the range that its name promises, and the parts
together tell the instant again. The year is within those of instants because the
calendar gives a day to the year around it (`Calendar.yearOf_between`); the second
is 60 only in a leap second, which is why the seconds of the day are counted with
at most 59 of them (`second_reading`).
-/
import ModelProtection.Proofs.Time.Calendar

set_option autoImplicit false

namespace ModelProtection

namespace Instant

theorem year_reading (t : Instant) :
    firstYear ≤ t.reading.date.year ∧ t.reading.date.year ≤ lastYear := by
  have hfirst := t.first_le
  have hlast := t.le_last
  apply Calendar.yearOf_between
  · unfold firstSecond daySeconds at *
    omega
  · unfold lastSecond daySeconds at *
    omega

theorem natAbs_year_reading (t : Instant) : t.reading.date.year.natAbs < 1000000 := by
  have hyear := year_reading t
  unfold firstYear lastYear at hyear
  omega

theorem date_reading (t : Instant) :
    1 ≤ t.reading.date.month ∧ t.reading.date.month ≤ 12
      ∧ 1 ≤ t.reading.date.day ∧ t.reading.date.day ≤ 31 := by
  have hnames := Calendar.names_dateOf (t.seconds / daySeconds)
  have hlength := Calendar.monthLength_le
    (Calendar.isLeap (Calendar.dateOf (t.seconds / daySeconds)).year) t.reading.date.month
  exact ⟨hnames.month_pos, hnames.month_le, hnames.day_pos, Nat.le_trans hnames.day_le hlength⟩

theorem clock_reading (t : Instant) :
    t.reading.hour ≤ 23 ∧ t.reading.minute ≤ 59 ∧ t.reading.second ≤ 60
      ∧ t.reading.fraction < billion := by
  have hnanos := t.nanos_lt
  have hminute := t.minute_end
  simp only [reading, daySeconds, billion] at hnanos hminute ⊢
  omega

/-- A leap second is the one second of 60; with second 59 it is a full second more. -/
theorem second_reading (t : Instant) :
    ((t.reading.hour * 3600 + t.reading.minute * 60 + min t.reading.second 59 : Nat) : Int)
        = t.seconds % daySeconds
      ∧ (if t.reading.second = 60 then t.reading.fraction + billion else t.reading.fraction)
        = t.nanos := by
  have hnanos := t.nanos_lt
  have hminute := t.minute_end
  have hsecond : t.reading.second
      = (t.seconds % daySeconds).toNat % 60 + t.nanos / billion := rfl
  have hhour : t.reading.hour = (t.seconds % daySeconds).toNat / 3600 := rfl
  have hclock : t.reading.minute = (t.seconds % daySeconds).toNat / 60 % 60 := rfl
  have hfraction : t.reading.fraction = t.nanos % billion := rfl
  rw [hhour, hclock, hfraction]
  unfold billion daySeconds at *
  by_cases hleap : 1000000000 ≤ t.nanos
  · have hsixty : t.reading.second = 60 := by omega
    rw [hsixty, if_pos rfl]
    omega
  · have hbelow : t.reading.second ≠ 60 := by omega
    rw [if_neg hbelow]
    omega

end Instant

end ModelProtection
