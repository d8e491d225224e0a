/-
Reading the pieces of a JSON text.

A reader takes bytes and gives a value and the bytes behind it. The functions
here read one string, number or literal each, or pass over a whole value that
nobody asked for. Strings that are kept must be text; strings that are passed
over need only end.
-/
import ModelProtection.Decimal.Shortest
import ModelProtection.Json.Error
import ModelProtection.Text.Utf8

set_option autoImplicit false

namespace ModelProtection

namespace Json

/-- Takes a value from the front of a byte string and leaves the rest. -/
abbrev Reader (α : Type) := Bytes → Except Error (α × Bytes)

/-- The code of an ASCII character. -/
def ascii (c : Char) : UInt8 := UInt8.ofNat c.toNat

/-- Whether a byte is white space between the pieces of a text. -/
def isBlank (b : UInt8) : Bool := b == 0x20 || b == 0x0A || b == 0x09 || b == 0x0D

/-- Whether a byte is a decimal digit. -/
def isDigit (b : UInt8) : Bool := 0x30 ≤ b && b ≤ 0x39

/-- The bytes behind the white space at the front. -/
def skipBlank (l : Bytes) : Bytes := l.dropWhile isBlank

/-! ## Strings -/

/-- The value of a hexadecimal digit of either case. -/
def hexValue? (b : UInt8) : Option Nat :=
  if 0x30 ≤ b && b ≤ 0x39 then some (b.toNat - 0x30)
  else if 0x61 ≤ b && b ≤ 0x66 then some (b.toNat - 0x61 + 10)
  else if 0x41 ≤ b && b ≤ 0x46 then some (b.toNat - 0x41 + 10)
  else none

/-- The number that four hexadecimal digits spell. -/
def hexFour? (a b c d : UInt8) : Option Nat := do
  let a ← hexValue? a
  let b ← hexValue? b
  let c ← hexValue? c
  let d ← hexValue? d
  return ((a * 16 + b) * 16 + c) * 16 + d

/-- Takes four hexadecimal digits. -/
def hexFour (l : Bytes) : Except Error { p : Nat × Bytes // p.2.length < l.length } :=
  match l with
  | a :: b :: c :: d :: rest =>
    match hexFour? a b c d with
    | some n => .ok ⟨(n, rest), by simp; omega⟩
    | none => .error .badEscape
  | _ => .error .endInString

/-- Takes what follows `\u`: four digits, and for a leading surrogate a second escape with the
trailing one. -/
def unicodeEscape (l : Bytes) : Except Error { p : Char × Bytes // p.2.length < l.length } :=
  match hexFour l with
  | .error e => .error e
  | .ok ⟨(n, rest), h⟩ =>
    -- a trailing surrogate must not come first, and a leading one must not stand alone
    if 0xDC00 ≤ n && n ≤ 0xDFFF then .error .loneSurrogate
    else if n < 0xD800 || 0xDBFF < n then .ok ⟨(Char.ofNat n, rest), h⟩
    else
      match rest, h with
      | [], _ => .error .endInString
      | b :: rest₁, h₁ =>
        if b ≠ ascii '\\' then .error .unpairedEscape
        else
          match rest₁, h₁ with
          | [], _ => .error .endInString
          | u :: rest₂, h₂ =>
            if u ≠ ascii 'u' then .error .unpairedEscape
            else
              match hexFour rest₂ with
              | .error e => .error e
              | .ok ⟨(t, rest₃), h₃⟩ =>
                if t < 0xDC00 || 0xDFFF < t then .error .loneSurrogate
                else
                  .ok ⟨(Char.ofNat (((n - 0xD800) * 1024 + (t - 0xDC00)) + 0x10000), rest₃),
                    by simp at h₂ h₃ ⊢; omega⟩

/-- The character that a backslash and one letter stand for. -/
def shortEscape? (b : UInt8) : Option Char :=
  if b = ascii '"' then some '"'
  else if b = ascii '\\' then some '\\'
  else if b = ascii '/' then some '/'
  else if b = ascii 'b' then some '\x08'
  else if b = ascii 'f' then some '\x0c'
  else if b = ascii 'n' then some '\n'
  else if b = ascii 'r' then some '\r'
  else if b = ascii 't' then some '\t'
  else none

/-- Takes the rest of a string, behind its opening quote, as the bytes that it spells. -/
def stringBytes : Reader Bytes
  | [] => .error .endInString
  | b :: l =>
    if b = ascii '"' then .ok ([], l)
    else if b = ascii '\\' then
      match l with
      | [] => .error .endInString
      | e :: l₁ =>
        if e = ascii 'u' then
          match unicodeEscape l₁ with
          | .error e => .error e
          | .ok ⟨(c, l₂), _⟩ =>
            match stringBytes l₂ with
            | .error e => .error e
            | .ok (s, rest) => .ok (String.utf8EncodeChar c ++ s, rest)
        else
          match shortEscape? e with
          | none => .error .badEscape
          | some c =>
            match stringBytes l₁ with
            | .error e => .error e
            | .ok (s, rest) => .ok (String.utf8EncodeChar c ++ s, rest)
    else if b < 0x20 then .error .controlCharacter
    else
      match stringBytes l with
      | .error e => .error e
      | .ok (s, rest) => .ok (b :: s, rest)
termination_by l => l.length
decreasing_by all_goals (simp at *; try omega)

/-- Takes the rest of a string, behind its opening quote. -/
def readString : Reader String := fun l =>
  match stringBytes l with
  | .error e => .error e
  | .ok (bytes, rest) =>
    match Utf8.decode bytes with
    | .ok s => .ok (s, rest)
    | .error _ => .error .notText

/-- Passes over the rest of a string, behind its opening quote. -/
def skipString : Bytes → Except Error Bytes
  | [] => .error .endInString
  | b :: l =>
    if b = ascii '"' then .ok l
    else if b = ascii '\\' then
      match l with
      | [] => .error .endInString
      | e :: l₁ =>
        if e = ascii 'u' then
          match hexFour l₁ with
          | .error e => .error e
          | .ok ⟨(_, l₂), _⟩ => skipString l₂
        else if (shortEscape? e).isSome then skipString l₁
        else .error .badEscape
    else if b < 0x20 then .error .controlCharacter
    else skipString l
termination_by l => l.length
decreasing_by all_goals (simp at *; try omega)

/-! ## Literals -/

/-- Takes the letters of a literal. -/
def readLiteral : List UInt8 → Bytes → Except Error Bytes
  | [], l => .ok l
  | _ :: _, [] => .error .endInValue
  | c :: cs, b :: l => if b = c then readLiteral cs l else .error .badLiteral

/-- The letters of `null` behind the first. -/
def nullTail : List UInt8 := [ascii 'u', ascii 'l', ascii 'l']

/-- The letters of `true` behind the first. -/
def trueTail : List UInt8 := [ascii 'r', ascii 'u', ascii 'e']

/-- The letters of `false` behind the first. -/
def falseTail : List UInt8 := [ascii 'a', ascii 'l', ascii 's', ascii 'e']

/-! ## Numbers -/

/-- How a number that is not whole is shown: zeros are written out for exponents from -5 to 15, and
other exponents have a sign and at least two digits. -/
def numberStyle : Decimal.Style := ⟨-5, 15, 2⟩

/-- Whether a number fits a word of 64 bits. -/
def fitsWord (n : Nat) : Bool := n < Nat.pow 2 64

/-- The double nearest to `10^e`. -/
def powerOfTen (e : Nat) : Float := Float.ofScientific 1 false e

/-- A double divided by `10^308` as often as the exponent allows, and by the power that is left; a
double multiplied by a power of ten that does not fit is an error. -/
def scaleDown : Nat → Float → Nat → Float
  | 0, f, _ => f
  | fuel + 1, f, e =>
    if e ≤ 308 then f / powerOfTen e
    else if f == 0.0 then f
    else scaleDown fuel (f / powerOfTen 308) (e - 308)

/-- The number `significand * 10^exponent` as a double. -/
def toDouble (negative : Bool) (significand : Nat) (exponent : Int) : Except Error Found := do
  let f := (UInt64.ofNat significand).toFloat
  let scaled ←
    if 0 ≤ exponent then
      if exponent ≤ 308 then
        let g := f * powerOfTen exponent.toNat
        if g.isInf then throw .numberTooLarge else pure g
      else if significand = 0 then pure f
      else throw .numberTooLarge
    else pure (scaleDown (exponent.natAbs / 308 + 1) f exponent.natAbs)
  let signed := if negative then -scaled else scaled
  return .number (numberStyle.writeBits signed.toBits)

/-- Takes digits onto `value` as long as the result fits a word; gives the number of digits taken and
whether a digit was left because it did not fit. -/
def digits : Nat → Nat → Bytes → Nat × Nat × Bool × Bytes
  | value, count, [] => (value, count, false, [])
  | value, count, b :: l =>
    if isDigit b then
      let next := value * 10 + (b.toNat - 0x30)
      if fitsWord next then digits next (count + 1) l else (value, count, true, b :: l)
    else (value, count, false, b :: l)

/-- The number that digits spell. -/
def decimalValue (l : Bytes) : Nat := l.foldl (fun n b => n * 10 + (b.toNat - 0x30)) 0

/-- Takes the exponent behind its letter. Past the size of a 32-bit integer its value no longer
matters: the number is zero or too large. -/
def exponentPart (negative : Bool) (significand : Nat) (start : Int) (l : Bytes) :
    Except Error (Found × Bytes) := do
  let (down, l) := match l with
    | b :: r => if b = ascii '+' then (false, r) else if b = ascii '-' then (true, r) else (false, l)
    | [] => (false, [])
  match l with
  | [] => throw .endInValue
  | b :: _ =>
    if !isDigit b then throw .badNumber
    let value := decimalValue (l.takeWhile isDigit)
    let rest := l.dropWhile isDigit
    -- a zero stays zero, and a negative power this large leaves nothing
    if Nat.pow 2 31 ≤ value then
      if significand ≠ 0 ∧ !down then throw .numberTooLarge
      return (.number (numberStyle.writeBits (if negative then -0.0 else (0.0 : Float)).toBits), rest)
    let power : Int := value
    let found ← toDouble negative significand (if down then start - power else start + power)
    return (found, rest)

/-- Takes what may follow the digits of a number that is no longer whole. -/
def afterDigits (negative : Bool) (significand : Nat) (exponent : Int) (l : Bytes) :
    Except Error (Found × Bytes) :=
  match l with
  | b :: r =>
    if b = ascii 'e' || b = ascii 'E' then exponentPart negative significand exponent r
    else (toDouble negative significand exponent).map (·, l)
  | [] => (toDouble negative significand exponent).map (·, [])

/-- Takes the digits behind the point. Digits that no longer fit the significand are dropped. -/
def fractionPart (negative : Bool) (significand : Nat) (exponent : Int) (l : Bytes) :
    Except Error (Found × Bytes) := do
  let (value, count, cut, rest) := digits significand 0 l
  -- a digit that does not fit ends the significand, and every digit behind it is dropped
  if cut then afterDigits negative value (exponent - count) (rest.dropWhile isDigit)
  else if count = 0 then
    match rest with
    | [] => throw .endInValue
    | _ :: _ => throw .badNumber
  else afterDigits negative value (exponent - count) rest

/-- Takes a number whose whole part has the given digits, as far as they fit, and whose remaining
digits were counted in `dropped`. -/
def afterWhole (negative : Bool) (significand dropped : Nat) (l : Bytes) :
    Except Error (Found × Bytes) :=
  match l with
  | b :: r =>
    if b = ascii '.' then fractionPart negative significand dropped r
    else if b = ascii 'e' || b = ascii 'E' then exponentPart negative significand dropped r
    else whole
  | [] => whole
where
  /-- A whole number, unless it is the negative zero or too long for a word. -/
  whole : Except Error (Found × Bytes) :=
    if 0 < dropped then (toDouble negative significand dropped).map (·, l)
    else if !negative then .ok (.integer significand, l)
    -- a word has no negative zero, and its least value is `-2^63`
    else if significand = 0 ∨ Nat.pow 2 63 < significand then
      (toDouble true significand 0).map (·, l)
    else .ok (.integer (-(significand : Int)), l)

/-- Takes a number behind its sign. -/
def readNumber (negative : Bool) : Reader Found
  | [] => .error .endInValue
  | b :: l =>
    if b = ascii '0' then
      match l with
      | c :: _ => if isDigit c then .error .badNumber else afterWhole negative 0 0 l
      | [] => afterWhole negative 0 0 l
    else if isDigit b then
      let (value, _, cut, rest) := digits 0 0 (b :: l)
      if cut then
        afterWhole negative value (rest.takeWhile isDigit).length (rest.dropWhile isDigit)
      else afterWhole negative value 0 rest
    else .error .badNumber

/-! ## Values that nobody asked for -/

/-- Passes over an exponent behind its letter. -/
def skipExponent (l : Bytes) : Except Error Bytes :=
  let l := match l with
    | b :: r => if b = ascii '+' || b = ascii '-' then r else l
    | [] => []
  match l with
  | b :: r => if isDigit b then .ok (r.dropWhile isDigit) else .error .badNumber
  | [] => .error .badNumber

/-- Passes over what may follow the whole part of a number. -/
def skipAfterWhole (l : Bytes) : Except Error Bytes :=
  match l with
  | b :: r =>
    if b = ascii '.' then
      let rest := r.dropWhile isDigit
      -- there must be a digit behind the point
      if rest.length = r.length then .error .badNumber
      else
        match rest with
        | e :: r₁ => if e = ascii 'e' || e = ascii 'E' then skipExponent r₁ else .ok rest
        | [] => .ok []
    else if b = ascii 'e' || b = ascii 'E' then skipExponent r
    else .ok l
  | [] => .ok []

/-- Passes over a number behind its sign. -/
def skipNumber : Bytes → Except Error Bytes
  | [] => .error .badNumber
  | b :: l =>
    if b = ascii '0' then
      match l with
      | c :: _ => if isDigit c then .error .badNumber else skipAfterWhole l
      | [] => .ok []
    else if isDigit b then skipAfterWhole (l.dropWhile isDigit)
    else .error .badNumber

/-- A list or an object that is not finished yet. -/
inductive Frame where
  /-- A list. -/
  | list
  /-- An object. -/
  | object
deriving DecidableEq, Repr

/-- The byte that finishes a frame. -/
def Frame.closer : Frame → UInt8
  | .list => ascii ']'
  | .object => ascii '\x7d'

/-- What the reader of an unwanted value expects. -/
inductive Skipping where
  /-- A value. -/
  | value
  /-- The first element of the innermost frame, or its end. -/
  | opened
  /-- A comma, or the end of the innermost frame. -/
  | closed
deriving DecidableEq, Repr

/-- Passes over the key and the colon in front of a member. -/
def skipKey (l : Bytes) : Except Error Bytes := do
  let rest ← match skipBlank l with
    | b :: r => if b = ascii '"' then skipString r else throw .keyNotText
    | [] => throw .endInObject
  match skipBlank rest with
  | b :: r => if b = ascii ':' then return r else throw .noColon
  | [] => throw .endInObject

/-- Passes over a value, whose unfinished frames are on the stack, innermost first. Each two steps
take at least one byte, so `fuel` twice the number of bytes is enough. -/
def skipFrom : Nat → Skipping → List Frame → Bytes → Except Error Bytes
  | 0, _, _, _ => .error .endInValue
  | fuel + 1, .value, stack, l =>
    match skipBlank l with
    | [] => .error .endInValue
    | b :: r =>
      if b = ascii '[' then skipFrom fuel .opened (.list :: stack) r
      else if b = ascii '\x7b' then skipFrom fuel .opened (.object :: stack) r
      else
        let rest :=
          if b = ascii 'n' then readLiteral nullTail r
          else if b = ascii 't' then readLiteral trueTail r
          else if b = ascii 'f' then readLiteral falseTail r
          else if b = ascii '-' then skipNumber r
          else if isDigit b then skipNumber (b :: r)
          else if b = ascii '"' then skipString r
          else .error .noValue
        match rest with
        | .error e => .error e
        | .ok rest => skipFrom fuel .closed stack rest
  | _ + 1, _, [], l => .ok l
  | fuel + 1, phase, f :: stack, l =>
    match skipBlank l with
    | [] => .error (match f with | .list => .endInList | .object => .endInObject)
    | b :: r =>
      if phase = .closed ∧ b = ascii ',' then element fuel f stack r
      else if b = f.closer then skipFrom fuel .closed stack r
      else if phase = .closed then
        .error (match f with | .list => .noCommaInList | .object => .noCommaInObject)
      else element fuel f stack (b :: r)
where
  /-- Passes over the next element of a frame, and then over the rest. -/
  element (fuel : Nat) (f : Frame) (stack : List Frame) (l : Bytes) : Except Error Bytes :=
    match f with
    | .list => skipFrom fuel .value (f :: stack) l
    | .object =>
      match skipKey l with
      | .error e => .error e
      | .ok rest => skipFrom fuel .value (f :: stack) rest

/-- Passes over a value of any kind. -/
def skipValue (l : Bytes) : Except Error Bytes := skipFrom (2 * l.length + 2) .value [] l

end Json

end ModelProtection
