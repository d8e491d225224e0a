/-
Scalars.

A scalar is text, and there are five ways to write it: plain, in single or
double quotes, and as a literal or folded block. Each reader takes the cells of
a scalar and gives its text and the cells behind it. A scalar over several lines
is folded: a single line end in it is a space, and of several the first is left
out.
-/
import ModelProtection.Text.Hex
import ModelProtection.Yaml.Layout

set_option autoImplicit false

namespace ModelProtection

namespace Yaml

/-! ## Folding -/

/-- The white space between two words of a scalar. -/
structure Gap where
  /-- The blanks on the line of the first word. -/
  blanks : List Char := []
  /-- The line ends. -/
  breaks : List Char := []
  /-- Whether a backslash stands in front of the first line end, which is then not among `breaks`. -/
  escaped : Bool := false

namespace Gap

/-- Whether the words stand on different lines. -/
def hasBreak (g : Gap) : Bool := g.escaped || !g.breaks.isEmpty

/-- Whether there is any white space. -/
def isSpace (g : Gap) : Bool := g.hasBreak || !g.blanks.isEmpty

/-- A gap with one more blank. On later lines blanks are indentation. -/
def withBlank (g : Gap) (c : Char) : Gap :=
  if g.hasBreak then g else { g with blanks := g.blanks ++ [c] }

/-- A gap with one more line end. -/
def withBreak (g : Gap) (c : Char) : Gap := { g with breaks := g.breaks ++ [c] }

/-- The text that a gap stands for. -/
def folded (g : Gap) : List Char :=
  if g.escaped then g.breaks
  else
    match g.breaks with
    | [] => g.blanks
    | first :: others =>
      if first ≠ '\n' then first :: others else if others.isEmpty then [' '] else others

end Gap

/-! ## Plain scalars -/

/-- The marks that end a plain scalar inside braces. -/
def flowMarks : List Char := ",[]\x7b\x7d".toList

/-- The marks that must not follow a colon in a plain scalar inside braces. -/
def afterColonMarks : List Char := ",?[]\x7b\x7d".toList

/-- Takes a plain scalar from its second word or character on. Its lines must be indented by `indent`;
`inFlow` says whether it stands inside braces. Gives the text, the gap behind it and the rest. -/
def plainFrom (inFlow : Bool) (indent : Nat) :
    Gap → List Cell → Option (List Char × Gap × List Cell)
  | gap, [] => some ([], gap, [])
  | gap, c :: l =>
    if isBlank c.char then
      if gap.hasBreak && c.char == '\t' && c.column < indent then none
      else plainFrom inFlow indent (gap.withBlank c.char) l
    else if isBreak c.char then plainFrom inFlow indent (gap.withBreak c.char) l
    -- a line that is not indented as far belongs to what comes next
    else if gap.hasBreak && !inFlow && c.column < indent then some ([], gap, c :: l)
    else if isBoundary (c :: l) || (gap.isSpace && c.char == '#') then some ([], gap, c :: l)
    else if inFlow && c.char == ':' && l.head?.any (afterColonMarks.contains ·.char) then none
    else if (c.char == ':' && wordEnds l) || (inFlow && flowMarks.contains c.char) then
      some ([], gap, c :: l)
    else do
      let (text, last, rest) ← plainFrom inFlow indent {} l
      return (gap.folded ++ c.char :: text, last, rest)

/-! ## Quoted scalars -/

/-- The two quotes. -/
inductive Quote where
  /-- The single quote, which is written twice inside. -/
  | single
  /-- The double quote, between which a backslash escapes. -/
  | double
deriving DecidableEq, Repr

/-- The character of a quote. -/
def Quote.char : Quote → Char
  | single => '\x27'
  | double => '"'

/-- Where a reader is in an escape. -/
inductive Escape where
  /-- Outside. -/
  | outside
  /-- Behind the backslash. -/
  | letter
  /-- Before a hexadecimal digit; `left` more follow it, and the ones in front have the value
  `value`. -/
  | digit (left value : Nat)
deriving DecidableEq, Repr

/-- The characters that a letter behind a backslash stands for. -/
def letterEscapes : List (Char × Char) :=
  [('0', '\x00'), ('a', '\x07'), ('b', '\x08'), ('t', '\t'), ('\t', '\t'), ('n', '\n'),
    ('v', '\x0b'), ('f', '\x0c'), ('r', '\r'), ('e', '\x1b'), (' ', ' '), ('"', '"'), ('/', '/'),
    ('\\', '\\'), ('N', '\u0085'), ('_', '\u00a0'), ('L', '\u2028'), ('P', '\u2029')]

/-- How many hexadecimal digits follow a letter. -/
def codeLengths : List (Char × Nat) := [('x', 2), ('u', 4), ('U', 8)]

/-- The value of a hexadecimal digit. -/
def hexValue? (c : Char) : Option Nat :=
  if Hex.isDigit c then Hex.digitValue? (UInt8.ofNat c.toNat) else none

/-- The character with a code. -/
def charOfCode? (n : Nat) : Option Char := if h : n.isValidChar then some (Char.ofNatAux n h) else none

/-- Takes a quoted scalar behind its opening quote. -/
def quotedFrom (q : Quote) : Escape → Gap → List Cell → Option (List Char × List Cell)
  | _, _, [] => none
  | .letter, _, c :: l =>
    -- a line end behind a backslash is left out, with the blanks in front of the next line
    if isBreak c.char then quotedFrom q .outside { escaped := true } l
    else
      match letterEscapes.lookup c.char, codeLengths.lookup c.char with
      | some d, _ => do
        let (text, rest) ← quotedFrom q .outside {} l
        return (d :: text, rest)
      | none, some n => quotedFrom q (.digit (n - 1) 0) {} l
      | none, none => none
  | .digit left value, _, c :: l => do
    let digit ← hexValue? c.char
    let value := value * 16 + digit
    match left with
    | 0 =>
      let d ← charOfCode? value
      let (text, rest) ← quotedFrom q .outside {} l
      return (d :: text, rest)
    | left + 1 => quotedFrom q (.digit left value) {} l
  | .outside, gap, c :: l =>
    if isBlank c.char then quotedFrom q .outside (gap.withBlank c.char) l
    else if isBreak c.char then quotedFrom q .outside (gap.withBreak c.char) l
    else if isBoundary (c :: l) then none
    else if c.char = q.char then
      match q, l with
      | .single, d :: l =>
        if d.char = q.char then do
          let (text, rest) ← quotedFrom q .outside {} l
          return (gap.folded ++ c.char :: text, rest)
        else some (gap.folded, d :: l)
      | _, l => some (gap.folded, l)
    else if q = .double ∧ c.char = '\\' then do
      let (text, rest) ← quotedFrom q .letter {} l
      return (gap.folded ++ text, rest)
    else do
      let (text, rest) ← quotedFrom q .outside {} l
      return (gap.folded ++ c.char :: text, rest)

/-! ## Blocks -/

/-- What happens to the line ends behind a block. -/
inductive Chomping where
  /-- All are left out. -/
  | strip
  /-- The first is kept. -/
  | clip
  /-- All are kept. -/
  | keep
deriving DecidableEq, Repr

/-- The mark for a way of chomping. -/
def chomping? (c : Char) : Option Chomping :=
  if c = '+' then some .keep else if c = '-' then some .strip else none

/-- The indentation that a digit other than zero says. -/
def indentDigit? (c : Char) : Option Nat :=
  if '1' ≤ c && c ≤ '9' then some (c.toNat - '0'.toNat) else none

/-- Takes the marks behind the mark of a block: how it is chomped and how far it is indented, in
either order. A zero is none of them, so that the line is found not to end there. -/
def blockMarks (l : List Cell) : Chomping × Option Nat × List Cell :=
  match l with
  | [] => (.clip, none, [])
  | a :: l₁ =>
    match chomping? a.char, indentDigit? a.char with
    | some chomping, _ =>
      match l₁ with
      | b :: l₂ =>
        match indentDigit? b.char with
        | some n => (chomping, some n, l₂)
        | none => (chomping, none, l₁)
      | [] => (chomping, none, [])
    | none, some n =>
      match l₁ with
      | b :: l₂ =>
        match chomping? b.char with
        | some chomping => (chomping, some n, l₂)
        | none => (.clip, some n, l₁)
      | [] => (.clip, some n, [])
    | none, none => (.clip, none, l)

/-- Takes the empty lines in front of a block whose indentation is not known. Gives their ends, the
greatest number of spaces on any of them or in front of the first other line, and the rest. A tab
must not stand among these spaces. -/
def emptyLines : Nat → List Cell → Option (List Char × Nat × List Cell)
  | widest, [] => some ([], widest, [])
  | widest, c :: l =>
    if c.char = ' ' then emptyLines (max widest (c.column + 1)) l
    else if c.char = '\t' then none
    else if isBreak c.char then do
      let (breaks, widest, rest) ← emptyLines widest l
      return (c.char :: breaks, widest, rest)
    else some ([], widest, c :: l)

/-- What is known about a block in front of a cell. -/
structure BlockState where
  /-- Whether the cell stands on a line of the block, behind the indentation. -/
  onLine : Bool := false
  /-- The end of the last line. -/
  lineEnd : List Char := []
  /-- The ends of the empty lines behind it. -/
  emptyEnds : List Char := []
  /-- Whether the last line begins with a blank. Such lines are not folded. -/
  afterBlank : Bool := false

/-- The text between the last line of a block and one that begins with `c`. -/
def BlockState.joint (s : BlockState) (isFolded : Bool) (c : Char) : List Char :=
  if isFolded && s.lineEnd == ['\n'] && !s.afterBlank && !isBlank c then
    if s.emptyEnds.isEmpty then [' '] else s.emptyEnds
  else s.lineEnd ++ s.emptyEnds

/-- Takes the lines of a block that is indented by `indent`. Gives its text without the line ends
behind it, these in the last state, and the rest. -/
def blockFrom (isFolded : Bool) (indent : Nat) :
    BlockState → List Cell → Option (List Char × BlockState × List Cell)
  | s, [] => some ([], s, [])
  | s, c :: l =>
    if s.onLine then
      if isBreak c.char then
        blockFrom isFolded indent { s with onLine := false, lineEnd := [c.char], emptyEnds := [] } l
      else do
        let (text, s, rest) ← blockFrom isFolded indent s l
        return (c.char :: text, s, rest)
    else if c.column < indent && c.char == ' ' then blockFrom isFolded indent s l
    else if c.column < indent && c.char == '\t' then none
    else if isBreak c.char then
      blockFrom isFolded indent { s with emptyEnds := s.emptyEnds ++ [c.char] } l
    else if c.column < indent then some ([], s, c :: l)
    else do
      let next : BlockState := { onLine := true, afterBlank := isBlank c.char }
      let (text, last, rest) ← blockFrom isFolded indent next l
      return (s.joint isFolded c.char ++ c.char :: text, last, rest)

/-- Takes a block behind its mark. `parent` is the column of the mapping around it; the block is
indented farther. -/
def block? (isFolded : Bool) (parent : Option Nat) (l : List Cell) :
    Option (List Char × List Cell) := do
  let (chomping, stated, l) := blockMarks l
  let l ← nextLine? l
  let (breaks, indent, l) ← match stated with
    | some n => pure ([], parent.getD 0 + n, l)
    | none => do
      let (breaks, widest, l) ← emptyLines 0 l
      pure (breaks, max widest ((parent.map (· + 1)).getD 1), l)
  let (text, s, rest) ← blockFrom isFolded indent { emptyEnds := breaks } l
  let tail := match chomping with
    | .strip => []
    | .clip => s.lineEnd
    | .keep => s.lineEnd ++ s.emptyEnds
  return (text ++ tail, rest)

end Yaml

end ModelProtection
