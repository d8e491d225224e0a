/-
How instants are written.

There are three written forms: the line that a license carries, the timestamp
that a certificate carries, and the form that messages show. All are in
universal time, show a leap second as second 60, and write a year outside 0 to
9999 with its sign.
-/
import ModelProtection.Time.Instant

set_option autoImplicit false

namespace ModelProtection

namespace Instant

/-! ## Numbers -/

/-- A number with at least `width` characters, filled up in front. -/
def padded (fill : Char) (width n : Nat) : List Char :=
  let digits := Nat.toDigits 10 n
  List.replicate (width - digits.length) fill ++ digits

theorem mem_padded {fill c : Char} {width n : Nat} (h : c ∈ padded fill width n) :
    c = fill ∨ c.isDigit = true := by
  rcases List.mem_append.1 h with h | h
  · exact .inl (List.eq_of_mem_replicate h)
  · exact .inr (Nat.isDigit_of_mem_toDigits (by decide) (by decide) h)

/-- A number with at least two digits. -/
def two (n : Nat) : List Char := padded '0' 2 n

/-- A year: four digits, or a sign and at least four digits. -/
def yearText (year : Int) : List Char :=
  if 0 ≤ year ∧ year ≤ 9999 then padded '0' 4 year.toNat
  else (if year < 0 then '-' else '+') :: padded '0' 4 year.natAbs

/-- A fraction of a second: the fewest of no, three, six or nine digits that are exact. -/
def fractionText (nanos : Nat) : List Char :=
  if nanos = 0 then []
  else if nanos % 1000000 = 0 then '.' :: padded '0' 3 (nanos / 1000000)
  else if nanos % 1000 = 0 then '.' :: padded '0' 6 (nanos / 1000)
  else '.' :: padded '0' 9 nanos

/-! ## The line of a license -/

/-- The short names of the days of the week. -/
def weekdayNames : List String := ["Sun", "Mon", "Tue", "Wed", "Thu", "Fri", "Sat"]

/-- The short names of the months. -/
def monthNames : List String :=
  ["Jan", "Feb", "Mar", "Apr", "May", "Jun", "Jul", "Aug", "Sep", "Oct", "Nov", "Dec"]

/-- Day of the week, month, day filled up with a blank, time and year. -/
def lineChars (t : Instant) : List Char :=
  let r := t.reading
  (weekdayNames.getD r.weekday "").toList ++ ' ' :: (monthNames.getD (r.date.month - 1) "").toList
    ++ ' ' :: padded ' ' 2 r.date.day ++ ' ' :: two r.hour ++ ':' :: two r.minute
    ++ ':' :: two r.second ++ ' ' :: yearText r.date.year

/-- A text without the line ends at its end. -/
def withoutLineEnd (l : List Char) : List Char :=
  (l.reverse.dropWhile fun c => c == '\n' || c == '\r').reverse

/-- Day of the week, month, day filled up with a blank, time and year, and no line end. -/
def line (t : Instant) : String := String.ofList (withoutLineEnd t.lineChars)

/-! ## Timestamps -/

/-- Year, month and day with hyphens. -/
def dateText (date : Calendar.Date) : List Char :=
  yearText date.year ++ '-' :: two date.month ++ '-' :: two date.day

/-- Hour, minute and second with colons, and the fraction. -/
def timeText (r : Reading) : List Char :=
  two r.hour ++ ':' :: two r.minute ++ ':' :: two r.second ++ fractionText r.fraction

/-- The timestamp of an instant. -/
def timestampChars (t : Instant) : List Char :=
  let r := t.reading
  dateText r.date ++ 'T' :: timeText r ++ ['Z']

/-- The timestamp of an instant. -/
def timestamp (t : Instant) : String := String.ofList t.timestampChars

/-- The form that messages show. -/
def shown (t : Instant) : String :=
  let r := t.reading
  String.ofList (dateText r.date ++ ' ' :: timeText r ++ [' ', 'U', 'T', 'C'])

end Instant

end ModelProtection
