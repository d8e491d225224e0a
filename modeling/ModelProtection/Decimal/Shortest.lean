/-
The shortest decimal text of a binary floating-point number.

A finite double is `m * 2^q`. The decimals that round to it fill an interval
around it, ends included exactly when `m` is even. For a number of digits the
decimals of that length near the value are a grid; the grids are tried from one
digit up, and the first one with a point in the interval gives the digits. Of
two such points the nearer one is taken.

`Notation` says how digits become text: which exponents are written out with
zeros, and how the others are written.
-/
set_option autoImplicit false

namespace ModelProtection

namespace Decimal

/-! ## Digits -/

/-- A decimal number `digits * 10^exponent`. -/
structure Scaled where
  /-- The digits as one number. -/
  digits : Nat
  /-- The power of ten they are multiplied by. -/
  exponent : Int
deriving DecidableEq, Repr

/-- The interval of the numbers that round to one value, all multiplied by `10^-exponent * scale`. -/
structure Interval where
  /-- The value itself. -/
  value : Nat
  /-- The lower end. -/
  low : Nat
  /-- The upper end. -/
  high : Nat
  /-- The common factor. -/
  scale : Nat
  /-- Whether the ends belong to it. -/
  closed : Bool

/-- Whether the grid point `k` lies in the interval. -/
def Interval.holds (i : Interval) (k : Nat) : Bool :=
  let p := k * i.scale
  if i.closed then i.low ≤ p && p ≤ i.high else i.low < p && p < i.high

/-- The interval of `m * 2^q` on the grid of multiples of `10^e`. The gap below is half as wide at a
power of two (`narrow`). -/
def interval (m : Nat) (narrow : Bool) (q e : Int) : Interval :=
  -- `m * 2^q` is `4 * m * 2^(q - 2)`, so half a gap and a quarter of one are whole numbers
  let two := Nat.pow 2 (q - 2).natAbs
  let ten := Nat.pow 10 e.natAbs
  let up := (if 0 ≤ q - 2 then two else 1) * (if e < 0 then ten else 1)
  { value := 4 * m * up
    low := (if narrow then 4 * m - 1 else 4 * m - 2) * up
    high := (4 * m + 2) * up
    scale := (if q - 2 < 0 then two else 1) * (if 0 ≤ e then ten else 1)
    closed := m % 2 = 0 }

/-- The grid point of the interval that is nearest to its value, if there is one. -/
def Interval.nearest? (i : Interval) : Option Nat :=
  let k := i.value / i.scale
  match i.holds k, i.holds (k + 1) with
  | true, true => if i.value - k * i.scale ≤ (k + 1) * i.scale - i.value then some k else some (k + 1)
  | true, false => some k
  | false, true => some (k + 1)
  | false, false => none

/-- The exponent of the leading digit of `num / den`, or one less at a power of ten. -/
def leading (num den : Nat) : Int :=
  if den ≤ num then ((Nat.toDigits 10 (num / den)).length : Int) - 1
  else -((Nat.toDigits 10 (den / num)).length : Int)

/-- A number without the zeros at the end of its digits; `fuel` bounds how many are taken off. -/
def Scaled.strip : Nat → Scaled → Scaled
  | 0, s => s
  | fuel + 1, s =>
    if s.digits ≠ 0 ∧ s.digits % 10 = 0 then strip fuel ⟨s.digits / 10, s.exponent + 1⟩ else s

/-- The shortest decimal that rounds to `m * 2^q`, for positive `m`. Seventeen digits always do. -/
def shortest (m : Nat) (narrow : Bool) (q : Int) : Scaled :=
  let top := if 0 ≤ q then leading (m * Nat.pow 2 q.natAbs) 1 else leading m (Nat.pow 2 q.natAbs)
  -- the first grid with a point in the interval has the fewest digits
  let hit := (List.range 18).findSome? fun (n : Nat) =>
    let e := top - (n : Int)
    ((interval m narrow q e).nearest?).map fun k => Scaled.mk k e
  (hit.getD ⟨0, 0⟩).strip 20

/-! ## Text -/

/-- How a decimal number is written. The exponent of a number is that of its leading digit. -/
structure Style where
  /-- The least exponent that is written out with zeros. -/
  leastPositional : Int
  /-- The greatest exponent that is written out with zeros. -/
  greatestPositional : Int
  /-- The least number of digits of a written exponent. -/
  exponentDigits : Nat

/-- `count` zeros. -/
def zeros (count : Nat) : List Char := List.replicate count '0'

/-- A positive number in a style. A number written with zeros keeps a digit after its point. -/
def Style.write (style : Style) (s : Scaled) : List Char :=
  let digits := Nat.toDigits 10 s.digits
  let count : Int := digits.length
  let exponent := s.exponent + count - 1
  if style.leastPositional ≤ exponent ∧ exponent ≤ style.greatestPositional then
    if 0 ≤ s.exponent then digits ++ zeros s.exponent.toNat ++ ['.', '0']
    else if 0 ≤ exponent then
      digits.take (exponent + 1).toNat ++ '.' :: digits.drop (exponent + 1).toNat
    else '0' :: '.' :: zeros (-exponent - 1).toNat ++ digits
  else
    let power := Nat.toDigits 10 exponent.natAbs
    let fraction := if digits.length ≤ 1 then [] else '.' :: digits.drop 1
    digits.take 1 ++ fraction ++ ['e', if 0 ≤ exponent then '+' else '-']
      ++ zeros (style.exponentDigits - power.length) ++ power

/-- The finite double with the given bits in a style. -/
def Style.writeBits (style : Style) (bits : UInt64) : String :=
  let b := bits.toNat
  let sign := if b / Nat.pow 2 63 = 1 then ['-'] else []
  let field := b / Nat.pow 2 52 % Nat.pow 2 11
  let fraction := b % Nat.pow 2 52
  if field = 0 ∧ fraction = 0 then String.ofList (sign ++ ['0', '.', '0'])
  else
    -- the least exponent has no hidden bit, and shares its scale with the one above it
    let m := if field = 0 then fraction else fraction + Nat.pow 2 52
    let q : Int := (max field 1 : Nat) - 1075
    String.ofList (sign ++ style.write (shortest m (fraction = 0 ∧ 1 < field) q))

end Decimal

end ModelProtection
