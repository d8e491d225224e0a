/-
The day of the date of a day.

A day falls into exactly one year: the year that `yearOf` finds starts no later
than the day (`yearStart_yearOf_le`), and the next one starts behind it
(`lt_yearStart_yearOf_succ`). The estimate behind it is never off by more than
one, which is all that the two corrections make up for.

Inside the year the months are gone through from the first. What that loop keeps
is that the days in front of the month and the days that are left make up the
position in the year (`monthOf_spec`), so the month in which it ends, with its
day, names the position again. Hence `dayOf?_dateOf`: a date names the day that
it was made of, and the calendar is never asked for a date that it does not have.
-/
import ModelProtection.Time.Instant

set_option autoImplicit false

namespace ModelProtection

namespace Calendar

/-! ## Years -/

theorem yearStart_le_of_le {a b : Int} (h : a ≤ b) : yearStart a ≤ yearStart b := by
  unfold yearStart
  omega

theorem yearStart_succ (year : Int) :
    yearStart (year + 1) = yearStart year + (if isLeap year then 366 else 365) := by
  unfold yearStart isLeap
  simp only [Bool.and_eq_true, Bool.or_eq_true, beq_iff_eq, bne_iff_ne]
  split <;> omega

theorem yearStart_yearOf_le (day : Int) : yearStart (yearOf day) ≤ day := by
  unfold yearOf
  dsimp only
  split
  · -- the estimate is too late, and the year in front of it is early enough
    unfold yearStart epochOffset at *
    omega
  · split <;> omega

theorem lt_yearStart_yearOf_succ (day : Int) : day < yearStart (yearOf day + 1) := by
  unfold yearOf
  dsimp only
  split
  · rwa [Int.sub_add_cancel]
  · split
    · -- the estimate is too early, and the year behind it is late enough
      unfold yearStart epochOffset at *
      omega
    · omega

/-- A year is the one of a day if the day is not in front of it and not behind it. -/
theorem yearOf_between {day low high : Int} (hlow : yearStart low ≤ day)
    (hhigh : day < yearStart (high + 1)) : low ≤ yearOf day ∧ yearOf day ≤ high := by
  have hstart := yearStart_yearOf_le day
  have hnext := lt_yearStart_yearOf_succ day
  constructor
  · refine Int.not_lt.1 fun hlt => ?_
    have := yearStart_le_of_le (show yearOf day + 1 ≤ low by omega)
    omega
  · refine Int.not_lt.1 fun hlt => ?_
    have := yearStart_le_of_le (show high + 1 ≤ yearOf day by omega)
    omega

/-! ## Months -/

theorem monthStart_succ (leap : Bool) {month : Nat} (h : 1 ≤ month) :
    monthStart leap (month + 1) = monthStart leap month + monthLength leap month := by
  obtain ⟨m, rfl⟩ := Nat.exists_eq_add_of_le' h
  rfl

theorem monthStart_thirteen (leap : Bool) : monthStart leap 13 = if leap then 366 else 365 := by
  cases leap <;> rfl

theorem monthLength_le (leap : Bool) (month : Nat) : monthLength leap month ≤ 31 := by
  unfold monthLength
  repeat' split
  all_goals omega

/-- A month and a day in it that name a position in a year. -/
structure Names (leap : Bool) (position month day : Nat) : Prop where
  month_pos : 1 ≤ month
  month_le : month ≤ 12
  day_pos : 1 ≤ day
  day_le : day ≤ monthLength leap month
  position_eq : monthStart leap month + (day - 1) = position

/-- The month in which the loop ends names the position from which it started, if there are enough
months to go. -/
theorem monthOf_spec {leap : Bool} {left month position : Nat} (hfirst : 1 ≤ month)
    (hlast : month + left = 12) (hposition : monthStart leap month + position < monthStart leap 13) :
    Names leap (monthStart leap month + position) (monthOf leap left month position).1
      (monthOf leap left month position).2 := by
  -- as long as days are left over, the days in front of the month grow by as many as those get fewer
  induction left generalizing month position with
  | zero =>
    obtain rfl : month = 12 := hlast
    rw [monthStart_succ leap hfirst] at hposition
    have hlt : position < monthLength leap 12 := by omega
    exact ⟨hfirst, Nat.le_refl _, Nat.succ_pos _, hlt, rfl⟩
  | succ left ih =>
    rw [monthOf]
    by_cases hlt : position < monthLength leap month
    · rw [if_pos hlt]
      exact ⟨hfirst, by omega, Nat.succ_pos _, hlt, rfl⟩
    · rw [if_neg hlt]
      have hstart := monthStart_succ leap hfirst
      have hsum : monthStart leap (month + 1) + (position - monthLength leap month)
          = monthStart leap month + position := by omega
      have hlast' : month + 1 + left = 12 := by omega
      have hposition' : monthStart leap (month + 1) + (position - monthLength leap month)
          < monthStart leap 13 := by
        rw [hsum]
        exact hposition
      have hnames := ih (Nat.succ_pos month) hlast' hposition'
      rwa [hsum] at hnames

/-! ## Dates -/

theorem names_dateOf (day : Int) :
    Names (isLeap (dateOf day).year) (day - yearStart (yearOf day)).toNat (dateOf day).month
      (dateOf day).day := by
  have hstart := yearStart_yearOf_le day
  have hnext := lt_yearStart_yearOf_succ day
  rw [yearStart_succ] at hnext
  have hposition : monthStart (isLeap (yearOf day)) 1 + (day - yearStart (yearOf day)).toNat
      < monthStart (isLeap (yearOf day)) 13 := by
    rw [monthStart_thirteen, monthStart]
    by_cases hleap : isLeap (yearOf day) = true
    · rw [if_pos hleap] at hnext ⊢
      omega
    · rw [if_neg hleap] at hnext ⊢
      omega
  have hmonths : 1 + 11 = 12 := rfl
  have hnames := monthOf_spec (Nat.le_refl 1) hmonths hposition
  rwa [monthStart, Nat.zero_add] at hnames

theorem dayOf?_dateOf (day : Int) : dayOf? (dateOf day) = some day := by
  have hnames := names_dateOf day
  have hstart := yearStart_yearOf_le day
  have hposition := hnames.position_eq
  unfold dayOf?
  rw [if_pos ⟨hnames.month_pos, hnames.month_le, hnames.day_pos, hnames.day_le⟩]
  have hyear : (dateOf day).year = yearOf day := rfl
  rw [hyear] at hposition ⊢
  congr 1
  omega

theorem dateOf_injective {day day' : Int} (h : dateOf day = dateOf day') : day = day' := by
  have hday := dayOf?_dateOf day
  rw [h, dayOf?_dateOf] at hday
  exact (Option.some.inj hday).symm

end Calendar

end ModelProtection
