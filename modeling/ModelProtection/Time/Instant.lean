/-
Instants of universal time.

An instant is a second since the start of 1970 and a position in it, in
nanoseconds. A leap second has no number of its own: it is told as the second
billion of nanoseconds of the last second of a minute. Instants lie in the years
from -262143 to 262142.
-/
import ModelProtection.Time.Calendar

set_option autoImplicit false

namespace ModelProtection

namespace Instant

/-- The number of seconds in a day. -/
def daySeconds : Int := 86400

/-- The first year. -/
def firstYear : Int := -262143

/-- The last year. -/
def lastYear : Int := 262142

/-- The first second. -/
def firstSecond : Int := Calendar.yearStart firstYear * daySeconds

/-- The last second. -/
def lastSecond : Int := Calendar.yearStart (lastYear + 1) * daySeconds - 1

/-- The nanoseconds in a second. -/
def billion : Nat := 1000000000

end Instant

/-- An instant of universal time. -/
structure Instant where
  /-- Whole seconds since the start of 1970. -/
  seconds : Int
  /-- Nanoseconds in the second; from a billion on, the leap second that follows it. -/
  nanos : Nat
  /-- A leap second is one second long. -/
  nanos_lt : nanos < 2 * Instant.billion
  /-- A leap second follows the last second of a minute. -/
  minute_end : Instant.billion ≤ nanos → seconds % 60 = 59
  /-- The year is not before the first. -/
  first_le : Instant.firstSecond ≤ seconds
  /-- The year is not after the last. -/
  le_last : seconds ≤ Instant.lastSecond
deriving DecidableEq

namespace Instant

/-- The instant with the given seconds and nanoseconds, if there is one. -/
def of? (seconds : Int) (nanos : Nat) : Option Instant :=
  if h : nanos < 2 * billion ∧ (billion ≤ nanos → seconds % 60 = 59)
      ∧ firstSecond ≤ seconds ∧ seconds ≤ lastSecond then
    some ⟨seconds, nanos, h.1, h.2.1, h.2.2.1, h.2.2.2⟩
  else none

/-- The start of 1970. -/
def epoch : Instant := ⟨0, 0, by decide, by decide, by decide, by decide⟩

instance : Inhabited Instant := ⟨epoch⟩

/-- Earlier instants are less. -/
instance : LT Instant where
  lt s t := s.seconds < t.seconds ∨ s.seconds = t.seconds ∧ s.nanos < t.nanos

instance : LE Instant where
  le s t := ¬ t < s

instance (s t : Instant) : Decidable (s < t) :=
  inferInstanceAs (Decidable (_ ∨ _ ∧ _))

instance (s t : Instant) : Decidable (s ≤ t) :=
  inferInstanceAs (Decidable (¬ _))

/-! ## Clock and calendar -/

/-- What clock and calendar show at an instant. -/
structure Reading where
  /-- The date. -/
  date : Calendar.Date
  /-- The day of the week, from 0 for Sunday. -/
  weekday : Nat
  /-- The hour, from 0 to 23. -/
  hour : Nat
  /-- The minute, from 0 to 59. -/
  minute : Nat
  /-- The second, from 0 to 59, or 60 in a leap second. -/
  second : Nat
  /-- The nanoseconds in that second. -/
  fraction : Nat
deriving DecidableEq, Repr

/-- What clock and calendar show at an instant. -/
def reading (t : Instant) : Reading :=
  let day := t.seconds / daySeconds
  let time := (t.seconds % daySeconds).toNat
  { date := Calendar.dateOf day
    weekday := Calendar.weekday day
    hour := time / 3600
    minute := time / 60 % 60
    second := time % 60 + t.nanos / billion
    fraction := t.nanos % billion }

/-! ## Later instants -/

/-- The most days in a span of time, whose milliseconds fit a signed word. -/
def mostDays : Nat := (Nat.pow 2 63 - 1) / 1000 / 86400

/-- The instant a positive number of days later, if there is one. A leap second counts as the second
that it follows. -/
def addDays? (t : Instant) (days : Nat) : Option Instant :=
  if mostDays < days then none
  else of? (t.seconds + days * daySeconds) (t.nanos % billion)

end Instant

end ModelProtection
