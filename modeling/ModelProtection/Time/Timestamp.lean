/-
Reading timestamps.

A timestamp names a date, a time of day and an offset from universal time. The
reader takes every timestamp that the library writes and is generous beyond
that: numbers may be shorter than usual, white space may surround them, the date
may be followed by a blank in place of the letter, any number of digits may
follow the point, and the offset may be `Z`, `UTC` or hours and minutes with
either of two minus signs.
-/
import ModelProtection.Text.Space
import ModelProtection.Text.Utf8
import ModelProtection.Time.Text

set_option autoImplicit false

namespace ModelProtection

namespace Timestamp

/-- Why a text is not a timestamp. -/
inductive Error where
  /-- A number is too large for its place. -/
  | outOfRange
  /-- No instant has this date, time and offset. -/
  | impossible
  /-- A character stands where it may not. -/
  | invalid
  /-- The text ends early. -/
  | tooShort
  /-- Something follows the timestamp. -/
  | tooLong
deriving DecidableEq, Repr

/-- The wording of an error. -/
def Error.message : Error → String
  | .outOfRange => "input is out of range"
  | .impossible => "no possible date and time matching input"
  | .invalid => "input contains invalid characters"
  | .tooShort => "premature end of input"
  | .tooLong => "trailing input"

/-- What is left of the text while it is read. -/
abbrev Rest := List Char

/-- Whether a character is a decimal digit. -/
def isDigit (c : Char) : Bool := '0' ≤ c && c ≤ '9'

/-- The value of a digit. -/
def digitValue (c : Char) : Nat := c.toNat - '0'.toNat

/-- The greatest number that a reader of numbers represents. -/
def mostNumber : Nat := Nat.pow 2 63 - 1

/-- Takes up to `most` digits; at least one must be there. -/
def number (most : Option Nat) (l : Rest) : Except Error (Nat × Rest) :=
  match l with
  | [] => .error .tooShort
  | c :: _ =>
    if !isDigit c then .error .invalid
    else
      let run := l.takeWhile isDigit
      let digits := match most with | some n => run.take n | none => run
      let value := digits.foldl (fun n c => n * 10 + digitValue c) 0
      if mostNumber < value then .error .outOfRange else .ok (value, l.drop digits.length)

/-- Takes a number of at most two digits behind white space, which must lie between two bounds. -/
def field (low high : Nat) (l : Rest) : Except Error (Nat × Rest) := do
  let (n, rest) ← number (some 2) (Space.trimStart l)
  if low ≤ n ∧ n ≤ high then return (n, rest) else throw .outOfRange

/-- The bounds of the numbers that can stand for a year. -/
def mostYear : Int := 2147483647

/-- Takes a year behind white space: up to four digits, or a sign and any number of digits. -/
def year (l : Rest) : Except Error (Int × Rest) := do
  let l := Space.trimStart l
  let (value, rest) ← match l with
    | '-' :: l => (number none l).map fun (n, rest) => (-(n : Int), rest)
    | '+' :: l => (number none l).map fun (n, rest) => ((n : Int), rest)
    | l => (number (some 4) l).map fun (n, rest) => ((n : Int), rest)
  if -mostYear - 1 ≤ value ∧ value ≤ mostYear then return (value, rest) else throw .outOfRange

/-- Takes a separator behind white space. -/
def separator (c : Char) (l : Rest) : Except Error Rest :=
  match Space.trimStart l with
  | [] => .error .tooShort
  | d :: rest => if d = c then .ok rest else .error .invalid

/-- Takes a point and the digits behind it, as nanoseconds, if there is a point. Digits behind the
ninth are dropped. -/
def fraction (l : Rest) : Except Error (Nat × Rest) :=
  match l with
  | '.' :: l => do
    let (n, rest) ← number (some 9) l
    let count := l.length - rest.length
    return (n * Nat.pow 10 (9 - count), rest.dropWhile isDigit)
  | l => .ok (0, l)

/-- Whether a text starts with three letters of either case. -/
def startsWithLetters (a b c : Char) : Rest → Bool
  | x :: y :: z :: _ => x.toLower == a && y.toLower == b && z.toLower == c
  | _ => false

/-- Takes the hours and minutes of an offset behind its sign, as minutes. Colons and white space may
stand between them. -/
def hoursAndMinutes (l : Rest) : Except Error (Nat × Rest) := do
  let (hours, rest) ← twoDigits l
  let rest := rest.dropWhile fun c => c == ':' || Space.isSpace c
  let (minutes, rest) ← twoDigits rest
  if 60 ≤ minutes then throw .outOfRange
  return (hours * 60 + minutes, rest)
where
  /-- Takes exactly two digits. Fewer than two bytes are too few, whatever they are. -/
  twoDigits (l : Rest) : Except Error (Nat × Rest) :=
    if (Utf8.encode (l.take 2)).length < 2 then .error .tooShort
    else
      match l with
      | a :: b :: rest =>
        if isDigit a && isDigit b then .ok (digitValue a * 10 + digitValue b, rest)
        else .error .invalid
      | _ => .error .invalid

/-- Takes an offset from universal time, in minutes. -/
def offset (l : Rest) : Except Error (Int × Rest) :=
  if startsWithLetters 'u' 't' 'c' l then .ok (0, l.drop 3)
  else
    match l with
    | [] => .error .tooShort
    | c :: rest =>
      if c = 'Z' ∨ c = 'z' then .ok (0, rest)
      else if c = '+' then (hoursAndMinutes rest).map fun (n, rest) => ((n : Int), rest)
      else if c = '-' ∨ c = '\u2212' then
        (hoursAndMinutes rest).map fun (n, rest) => (-(n : Int), rest)
      else .error .invalid

/-- The instant with a date, a time of day and an offset in minutes. -/
def assemble (date : Calendar.Date) (hour minute second nanos : Nat) (offset : Int) :
    Except Error Instant := do
  if date.year < Instant.firstYear ∨ Instant.lastYear < date.year then throw .outOfRange
  let some day := Calendar.dayOf? date | throw .outOfRange
  -- A second of 60 is the leap second behind second 59.
  let clock := hour * 3600 + minute * 60 + min second 59
  let nanos := if second = 60 then nanos + Instant.billion else nanos
  if 24 * 60 ≤ offset.natAbs then throw .outOfRange
  match Instant.of? (day * Instant.daySeconds + clock - offset * 60) nanos with
  | some t => return t
  | none => throw .impossible

/-- The instant that a timestamp names. -/
def parseChars (l : List Char) : Except Error Instant := do
  let (year, l) ← year l
  let l ← separator '-' l
  let (month, l) ← field 1 12 l
  let l ← separator '-' l
  let (day, l) ← field 1 31 l
  let l ← match l with
    | [] => throw .tooShort
    | c :: rest => if c = 't' ∨ c = 'T' ∨ c = ' ' then pure rest else throw .invalid
  let (hour, l) ← field 0 23 l
  let l ← separator ':' l
  let (minute, l) ← field 0 59 l
  let l ← separator ':' l
  let (second, l) ← field 0 60 l
  let (nanos, l) ← fraction l
  let (minutes, l) ← offset (Space.trimStart l)
  if Space.trimStart l ≠ [] then throw .tooLong
  assemble ⟨year, month, day⟩ hour minute second nanos minutes

/-- The instant that a timestamp names. -/
def parse (s : String) : Except Error Instant := parseChars s.toList

end Timestamp

end ModelProtection
