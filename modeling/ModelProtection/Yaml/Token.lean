/-
Tokens.

A text is cut into tokens: marks, names and scalars. What a key is can only be
said afterwards, when the colon behind it is found, so the scanner holds back
everything from a possible key on until it knows. Collections inside the one
mapping of a text are refused here: that is a dash in front of an item, a
bracket, a second brace, and a mapping that is indented farther.
-/
import ModelProtection.Text.Utf8
import ModelProtection.Yaml.Scalar

set_option autoImplicit false

namespace ModelProtection

namespace Yaml

/-- A piece of a text. -/
inductive Token where
  /-- The version of YAML that a text is written in. -/
  | version (major minor : Nat)
  /-- A handle for tags and what it stands for. -/
  | handle (name : List Char) (start : Bytes)
  /-- The mark in front of a document. -/
  | documentStart
  /-- The mark behind a document. -/
  | documentEnd
  /-- The beginning of an indented mapping. -/
  | blockStart
  /-- The end of an indented mapping. -/
  | blockEnd
  /-- An opening brace. -/
  | flowStart
  /-- A closing brace. -/
  | flowEnd
  /-- A comma between braces. -/
  | separator
  /-- The beginning of a key. -/
  | key
  /-- The beginning of a value. -/
  | value
  /-- A name that stands for a node. -/
  | alias (name : List Char)
  /-- A name for the node behind it. -/
  | anchor (name : List Char)
  /-- A tag for the node behind it: a handle and what follows it. -/
  | tag (handle : List Char) (suffix : Bytes)
  /-- A scalar. -/
  | scalar (isPlain : Bool) (text : List Char)
deriving DecidableEq

/-! ## Tags -/

/-- The marks that may stand in a tag beside the characters of names. -/
def tagMarks : List Char := ";/?:@&=+$.!~*\x27()".toList

/-- The marks that may also stand in a tag that is written in full. -/
def fullTagMarks : List Char := ",[]".toList

/-- How many bytes a character has whose first byte is `b`. -/
def sequenceLength? (b : Nat) : Option Nat :=
  if b < 0x80 then some 1
  else if 0xC0 ≤ b && b < 0xE0 then some 2
  else if 0xE0 ≤ b && b < 0xF0 then some 3
  else if 0xF0 ≤ b && b < 0xF8 then some 4
  else none

/-- Takes the characters of a tag as bytes. A percent sign and two hexadecimal digits are one byte;
`left` says how many such bytes must still follow. -/
def tagBytesFrom (isFull : Bool) : (left : Nat) → List Cell → Option (Bytes × List Cell)
  | 0, [] => some ([], [])
  | _ + 1, [] => none
  | left, c :: l =>
    if c.char = '%' then
      match l with
      | a :: b :: l => do
        let byte := (← hexValue? a.char) * 16 + (← hexValue? b.char)
        -- the first byte says how many follow, and each of these must be a following byte
        let left ← match left with
          | 0 => (sequenceLength? byte).map (· - 1)
          | left + 1 => if 0x80 ≤ byte && byte < 0xC0 then some left else none
        let (bytes, rest) ← tagBytesFrom isFull left l
        return (UInt8.ofNat byte :: bytes, rest)
      | _ => none
    else if left ≠ 0 then none
    else if isNameChar c.char || tagMarks.contains c.char
        || (isFull && fullTagMarks.contains c.char) then do
      let (bytes, rest) ← tagBytesFrom isFull 0 l
      return (UInt8.ofNat c.char.toNat :: bytes, rest)
    else some ([], c :: l)

/-- Takes the characters of a tag, at least one. A zero byte ends the tag. -/
def tagBytes? (isFull : Bool) (l : List Cell) : Option (Bytes × List Cell) := do
  let (bytes, rest) ← tagBytesFrom isFull 0 l
  if bytes.isEmpty then none else some (bytes.takeWhile (· ≠ 0), rest)

/-- Takes a tag behind its exclamation mark: one written in full between angle brackets, one with a
handle between exclamation marks, or one with the shortest handle. An exclamation mark alone is a tag
too. -/
def tagFrom (l : List Cell) : Option (Token × List Cell) :=
  if nextIs '<' l then do
    let (suffix, rest) ← tagBytes? true (l.drop 1)
    if nextIs '>' rest then some (.tag [] suffix, rest.drop 1) else none
  else
    let (name, rest) := spanChars isNameChar l
    if nextIs '!' rest then do
      let (suffix, rest) ← tagBytes? false (rest.drop 1)
      return (.tag ('!' :: name ++ ['!']) suffix, rest)
    else do
      let (bytes, rest) ← tagBytesFrom false 0 l
      let suffix := bytes.takeWhile (· ≠ 0)
      if suffix.isEmpty then some (.tag [] (textBytes "!"), rest) else some (.tag ['!'] suffix, rest)

/-- Takes a tag behind its exclamation mark up to the blank or, between braces, the comma behind
it. -/
def tag? (inFlow : Bool) (l : List Cell) : Option (Token × List Cell) := do
  let (t, rest) ← tagFrom l
  if (inFlow && nextIs ',' rest) || wordEnds rest then some (t, rest) else none

/-! ## Names -/

/-- The marks that may stand behind a name. -/
def afterNameMarks : List Char := "?:,]\x7d%@\x60".toList

/-- Takes the name of an anchor or an alias. -/
def name? (l : List Cell) : Option (List Char × List Cell) :=
  let (name, rest) := spanChars isNameChar l
  if name.isEmpty then none
  else if wordEnds rest || rest.head?.any (afterNameMarks.contains ·.char) then some (name, rest)
  else none

/-! ## Directives -/

/-- The most digits in the number of a version. -/
def mostDigits : Nat := 9

/-- Takes a number. -/
def number? (l : List Cell) : Option (Nat × List Cell) :=
  let (digits, rest) := spanChars Char.isDigit l
  if digits.isEmpty || mostDigits < digits.length then none
  else some (digits.foldl (fun n c => n * 10 + (c.toNat - '0'.toNat)) 0, rest)

/-- Takes a version. -/
def version? (l : List Cell) : Option (Token × List Cell) := do
  let (major, rest) ← number? (skipBlanks l)
  if nextIs '.' rest then
    let (minor, rest) ← number? (rest.drop 1)
    return (.version major minor, rest)
  else none

/-- Takes a handle and what it stands for. -/
def handle? (l : List Cell) : Option (Token × List Cell) := do
  let l := skipBlanks l
  if !nextIs '!' l then none
  let (name, rest) := spanChars isNameChar (l.drop 1)
  let (handle, rest) ←
    if nextIs '!' rest then some ('!' :: name ++ ['!'], rest.drop 1)
    else if name.isEmpty then some (['!'], rest)
    else none
  if !rest.head?.any (isBlank ·.char) then none
  let (start, rest) ← tagBytes? true (skipBlanks rest)
  if wordEnds rest then some (.handle handle start, rest) else none

/-- Takes a directive behind its percent sign, with the line end behind it. -/
def directive? (l : List Cell) : Option (Token × List Cell) := do
  let (name, rest) := spanChars isNameChar l
  if !wordEnds rest then none
  let (t, rest) ←
    if name = "YAML".toList then version? rest
    else if name = "TAG".toList then handle? rest
    else none
  return (t, ← nextLine? rest)

/-! ## The scanner -/

/-- A place at which a key may have begun. -/
structure Candidate where
  /-- The place. -/
  place : Place
  /-- Whether there must be a key, because everything else would have to be indented farther. -/
  isRequired : Bool
  /-- The tokens from there on, the last one first. -/
  held : List Token := []

/-- The most characters between the beginning of a key and its colon. -/
def mostKey : Nat := 1024

/-- Whether a colon at `p` can still belong to the key. -/
def Candidate.reaches (k : Candidate) (p : Place) : Bool :=
  k.place.line == p.line && p.index ≤ k.place.index + mostKey

/-- What the scanner knows between two tokens. -/
structure Scanner where
  /-- The tokens in front of a possible key, the last one first. -/
  tokens : List Token := []
  /-- The possible key. -/
  candidate : Option Candidate := none
  /-- Whether a brace is open. -/
  inFlow : Bool := false
  /-- The column of the indented mapping. -/
  indent : Option Nat := none
  /-- Whether a key may begin here. -/
  keyAllowed : Bool := true

namespace Scanner

/-- Takes in a token. -/
def emit (s : Scanner) (t : Token) : Scanner :=
  match s.candidate with
  | some k => { s with candidate := some { k with held := t :: k.held } }
  | none => { s with tokens := t :: s.tokens }

/-- Gives up the possible key. A key that must be there cannot be given up. -/
def release? (s : Scanner) : Option Scanner :=
  match s.candidate with
  | none => some s
  | some k => if k.isRequired then none else some { s with tokens := k.held ++ s.tokens, candidate := none }

/-- Notes that a key may begin at a cell. -/
def mark? (s : Scanner) (c : Cell) : Option Scanner :=
  if s.keyAllowed then do
    let s ← s.release?
    -- at the column of the mapping nothing but a key can stand
    return { s with candidate := some ⟨c.place, !s.inFlow && s.indent == some c.column, []⟩ }
  else some s

/-- Ends the indented mapping at a cell that is not indented as far. -/
def unroll (s : Scanner) (column : Nat) : Scanner :=
  match s.inFlow, s.indent with
  | false, some n => if column < n then { s.emit .blockEnd with indent := none } else s
  | _, _ => s

/-- Ends the indented mapping and what is held back, at the end of a document. -/
def finish? (s : Scanner) : Option Scanner := do
  let s := if s.inFlow || s.indent.isNone then s else { s.emit .blockEnd with indent := none }
  let s ← s.release?
  return { s with keyAllowed := false }

/-- Begins an indented mapping at a column, unless it has begun there before. -/
def roll? (s : Scanner) (column : Nat) : Option Scanner :=
  if s.inFlow then some s
  else
    match s.indent with
    | none => some { s.emit .blockStart with indent := some column }
    | some n => if n < column then none else some s

/-- Takes in the colon in front of a value. -/
def value? (s : Scanner) (c : Cell) : Option Scanner :=
  match s.candidate with
  | some k =>
    if k.reaches c.place then do
      -- the mapping and the key begin in front of what was held back
      let s ← { s with candidate := none }.roll? k.place.column
      let s := s.emit .key
      return { s with tokens := .value :: (k.held ++ s.tokens), keyAllowed := false }
    else do
      let s ← s.release?
      plain s
  | none => plain s
where
  /-- The colon does not follow a key on its line. -/
  plain (s : Scanner) : Option Scanner := do
    if !s.inFlow && !s.keyAllowed then none
    let s ← s.roll? c.column
    return { s.emit .value with keyAllowed := !s.inFlow }

/-- Takes in the question mark in front of a key. -/
def key? (s : Scanner) (c : Cell) : Option Scanner := do
  if !s.inFlow && !s.keyAllowed then none
  let s ← s.roll? c.column
  let s ← s.release?
  return { s.emit .key with keyAllowed := !s.inFlow }

/-- Passes over white space and comments. A new line may begin with a key. -/
def toToken (inFlow : Bool) : (keyAllowed inComment : Bool) → List Cell → Bool × List Cell
  | keyAllowed, _, [] => (keyAllowed, [])
  | keyAllowed, inComment, c :: l =>
    if isBreak c.char then toToken inFlow (keyAllowed || !inFlow) false l
    else if inComment || (c.char == byteOrderMark && c.column == 0) || c.char == ' '
        || (c.char == '\t' && (inFlow || !keyAllowed)) then
      toToken inFlow keyAllowed inComment l
    else if c.char == '#' then toToken inFlow keyAllowed true l
    else (keyAllowed, c :: l)

/-- The marks with which a plain scalar does not begin. -/
def indicators : List Char := "-?:,[]\x7b\x7d#&*!|>\x27\"%@\x60".toList

/-- Whether a plain scalar begins with `c` in front of `l`. -/
def beginsPlain (s : Scanner) (c : Char) (l : List Cell) : Bool :=
  !(isBlank c || indicators.contains c)
    || (c == '-' && !l.head?.any (isBlank ·.char))
    || (!s.inFlow && (c == '?' || c == ':') && !wordEnds l)

/-- Takes the token that begins with the cell `c` in front of `l`. -/
def step (s : Scanner) (c : Cell) (l : List Cell) : Option (Scanner × List Cell) := do
  let s := s.unroll c.column
  if c.char = '%' ∧ c.column = 0 then
    let s ← s.finish?
    let (t, rest) ← directive? l
    return (s.emit t, rest)
  else if isDocumentMark '-' (c :: l) then
    return ((← s.finish?).emit .documentStart, l.drop 2)
  else if isDocumentMark '.' (c :: l) then
    return ((← s.finish?).emit .documentEnd, l.drop 2)
  else if c.char = '[' ∨ c.char = ']' then none
  else if c.char = '\x7b' then
    -- a brace is only understood around the whole mapping
    if s.inFlow || s.indent.isSome then none
    let s ← s.release?
    return ({ s.emit .flowStart with inFlow := true, keyAllowed := true }, l)
  else if c.char = '\x7d' then
    if !s.inFlow then none
    let s ← s.release?
    return ({ s.emit .flowEnd with inFlow := false, keyAllowed := false }, l)
  else if c.char = ',' then
    if !s.inFlow then none
    let s ← s.release?
    return ({ s.emit .separator with keyAllowed := true }, l)
  -- a dash with a blank behind it is an item of a list
  else if c.char = '-' ∧ wordEnds l then none
  else if c.char = '?' ∧ (s.inFlow ∨ wordEnds l) then return (← s.key? c, l)
  else if c.char = ':' ∧ (s.inFlow ∨ wordEnds l) then return (← s.value? c, l)
  else if c.char = '*' then
    let s ← s.mark? c
    let (name, rest) ← name? l
    return ({ s.emit (.alias name) with keyAllowed := false }, rest)
  else if c.char = '&' then
    let s ← s.mark? c
    let (name, rest) ← name? l
    return ({ s.emit (.anchor name) with keyAllowed := false }, rest)
  else if c.char = '!' then
    let s ← s.mark? c
    let (t, rest) ← tag? s.inFlow l
    return ({ s.emit t with keyAllowed := false }, rest)
  else if (c.char = '|' ∨ c.char = '>') ∧ !s.inFlow then
    let s ← s.release?
    let (text, rest) ← block? (c.char == '>') s.indent l
    return ({ s.emit (.scalar false text) with keyAllowed := true }, rest)
  else if c.char = Quote.single.char then quoted s .single
  else if c.char = Quote.double.char then quoted s .double
  else if s.beginsPlain c.char l then
    let s ← s.mark? c
    let (text, gap, rest) ← plainFrom s.inFlow ((s.indent.map (· + 1)).getD 0) {} (c :: l)
    return ({ s.emit (.scalar true text) with keyAllowed := gap.hasBreak }, rest)
  else none
where
  /-- Takes a quoted scalar. -/
  quoted (s : Scanner) (q : Quote) : Option (Scanner × List Cell) := do
    let s ← s.mark? c
    let (text, rest) ← quotedFrom q .outside {} l
    return ({ s.emit (.scalar false text) with keyAllowed := false }, rest)

/-- Takes all tokens. Every step takes a cell, so `fuel` need only be greater than their number. -/
def run? : (fuel : Nat) → Scanner → List Cell → Option (List Token)
  | 0, _, _ => none
  | fuel + 1, s, l =>
    match toToken s.inFlow s.keyAllowed false l with
    | (_, []) => s.finish?.map (·.tokens.reverse)
    | (keyAllowed, c :: l) =>
      match { s with keyAllowed }.step c l with
      | some (s, rest) => run? fuel s rest
      | none => none

end Scanner

/-- The tokens of a text. -/
def tokens? (l : List Char) : Option (List Token) := do
  let cells ← cells? l
  Scanner.run? (cells.length + 1) {} cells

end Yaml

end ModelProtection
