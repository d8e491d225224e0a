/-
The calendar.

Days are counted from the first of January 1970; the calendar is the Gregorian
one carried on without end in both directions, with a year zero. A year starts
at the day `yearStart`, a closed formula; the year of a day is found from an
estimate that is never off by more than one, and the month by the table of the
days in front of each month.
-/
set_option autoImplicit false

namespace ModelProtection

namespace Calendar

/-- A day of the calendar. -/
structure Date where
  /-- The year. -/
  year : Int
  /-- The month, from 1 to 12. -/
  month : Nat
  /-- The day of the month, from 1. -/
  day : Nat
deriving DecidableEq, Repr

/-! ## Years -/

/-- Whether a year has 366 days. -/
def isLeap (year : Int) : Bool := year % 4 == 0 && (year % 100 != 0 || year % 400 == 0)

/-- The number of days from the first of January of year zero to that of 1970. -/
def epochOffset : Int := 719528

/-- The day on which a year starts. Of the years from zero on, those divisible by four are leap
years, less those divisible by a hundred, plus those divisible by four hundred. -/
def yearStart (year : Int) : Int :=
  365 * year + (year + 3) / 4 - (year + 99) / 100 + (year + 399) / 400 - epochOffset

/-- The year of a day. -/
def yearOf (day : Int) : Int :=
  let estimate := (day + epochOffset) * 400 / 146097
  if day < yearStart estimate then estimate - 1
  else if yearStart (estimate + 1) ≤ day then estimate + 1
  else estimate

/-! ## Months -/

/-- The number of days in a month. -/
def monthLength (leap : Bool) (month : Nat) : Nat :=
  if month = 2 then (if leap then 29 else 28)
  else if month = 4 ∨ month = 6 ∨ month = 9 ∨ month = 11 then 30
  else 31

/-- The month and the day of the month of the day with the given position in its year, counted from
the start of `month`; `left` is the number of months to go. -/
def monthOf (leap : Bool) : Nat → Nat → Nat → Nat × Nat
  | 0, month, position => (month, position + 1)
  | left + 1, month, position =>
    if position < monthLength leap month then (month, position + 1)
    else monthOf leap left (month + 1) (position - monthLength leap month)

/-- The number of days in front of a month. -/
def monthStart (leap : Bool) : (month : Nat) → Nat
  | 0 => 0
  | 1 => 0
  | m + 2 => monthStart leap (m + 1) + monthLength leap (m + 1)

/-! ## Dates -/

/-- The date of a day. -/
def dateOf (day : Int) : Date :=
  let year := yearOf day
  let (month, dayOfMonth) := monthOf (isLeap year) 11 1 (day - yearStart year).toNat
  ⟨year, month, dayOfMonth⟩

/-- The day of a date, if the calendar has it. -/
def dayOf? (date : Date) : Option Int :=
  let leap := isLeap date.year
  if 1 ≤ date.month ∧ date.month ≤ 12 ∧ 1 ≤ date.day ∧ date.day ≤ monthLength leap date.month then
    some (yearStart date.year + monthStart leap date.month + (date.day - 1 : Nat))
  else none

/-- The day of the week, from 0 for Sunday to 6. -/
def weekday (day : Int) : Nat := ((day + 4) % 7).toNat

end Calendar

end ModelProtection
