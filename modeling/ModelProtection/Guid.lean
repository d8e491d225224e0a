/-
Identifiers of models and licenses.

A GUID is sixteen bytes. Its canonical text has 36 characters, lower-case
hexadecimal digits in groups of eight, four, four, four and twelve with hyphens
between them. Reading takes digits of either case and nothing else: no braces,
no prefix, no other grouping, because documents record the text as it was given.
-/
import ModelProtection.Error.Class
import ModelProtection.Json.Record
import ModelProtection.Text.Hex

set_option autoImplicit false

namespace ModelProtection

/-- A GUID. -/
structure Guid where
  /-- The bytes, in the order of the digits. -/
  octets : Octets 16
deriving DecidableEq

namespace Guid

/-! ## Text -/

/-- The number of characters in the text of a GUID. -/
def textLength : Nat := 36

/-- Whether a hyphen stands at an offset of the text. -/
def isHyphenPosition (i : Nat) : Bool := i == 8 || i == 13 || i == 18 || i == 23

/-- The digits of a GUID with hyphens between its groups. -/
def canonicalChars (g : Guid) : List Char :=
  let digits := Hex.encodeChars g.octets.toList
  digits.take 8 ++ '-' :: (digits.drop 8).take 4 ++ '-' :: (digits.drop 12).take 4
    ++ '-' :: (digits.drop 16).take 4 ++ '-' :: digits.drop 20

/-- The canonical text of a GUID. -/
def canonical (g : Guid) : String := String.ofList g.canonicalChars

instance : ToString Guid := ⟨canonical⟩

/-- Why a text is not a GUID. -/
inductive Error where
  /-- The text has another number of bytes. -/
  | wrongLength (bytes : Nat)
  /-- The text has a digit or a hyphen where the other belongs, or another character. -/
  | malformed (text : String)
deriving DecidableEq, Repr

/-- The wording of an error. -/
def Error.message : Error → String
  | .wrongLength bytes => s!"GUID must be {textLength} characters, got {bytes}"
  | .malformed text => "malformed GUID: " ++ Quoted.text text

/-- Whether the characters from offset `i` on are digits and hyphens in their places. Offsets count
bytes, as the length does. -/
def wellFormed (i : Nat) : List Char → Bool
  | [] => true
  | c :: l =>
    (if isHyphenPosition i then c == '-' else Hex.isDigit c) && wellFormed (i + c.utf8Size) l

/-- The GUID that a text spells. -/
def parse (s : String) : Except Error Guid :=
  let bytes := (textBytes s).length
  if bytes ≠ textLength then .error (.wrongLength bytes)
  else if wellFormed 0 s.toList then
    match Hex.decodeSized 16 (Utf8.encode (s.toList.filter (· ≠ '-'))) with
    | .ok octets => .ok ⟨octets⟩
    | .error _ => .error (.malformed s)
  else .error (.malformed s)

/-! ## Fresh GUIDs -/

/-- The GUID made of sixteen random bytes. The bytes are taken last to first; the version is set to
four and the variant to that of random GUIDs. -/
def ofRandom (draw : Octets 16) : Guid :=
  ⟨.ofFn 16 fun i =>
    let b := draw.toList.getD (15 - i) 0
    if i = 6 then b &&& 0x0F ||| 0x40 else if i = 8 then b &&& 0x3F ||| 0x80 else b⟩

/-! ## JSON -/

/-- Reads a GUID from a string. -/
def read : Json.Reader Guid :=
  Json.readSpelled "a string" fun s =>
    (parse s).mapError fun e => ErrorClass.parameter.sentence e.message

end Guid

end ModelProtection
