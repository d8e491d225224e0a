/-
Digests of protected models.

The digest of a document is 32 bytes; its text is 64 lower-case hexadecimal
digits. A reader takes digits of either case.
-/
import ModelProtection.Error.Class
import ModelProtection.Json.Record
import ModelProtection.Text.Hex

set_option autoImplicit false

namespace ModelProtection

/-- The digest of a model document. -/
structure ModelHash where
  /-- The bytes of the digest. -/
  octets : Octets 32
deriving DecidableEq

namespace ModelHash

/-- The number of digits in the text of a digest. -/
def textLength : Nat := 64

/-- The digits of a digest. -/
def hex (h : ModelHash) : String := Hex.encode h.octets.toList

instance : ToString ModelHash := ⟨hex⟩

/-- The start of a digest, for logs. -/
def abbreviated (h : ModelHash) : String :=
  "ModelHash(" ++ String.ofList ((Hex.encodeChars h.octets.toList).take 8) ++ "...)"

/-- Why a text is not a digest. -/
inductive Error where
  /-- The text has another number of bytes. -/
  | wrongLength (bytes : Nat)
  /-- The text has a character that is no digit. -/
  | badHex (error : Hex.Error)
deriving DecidableEq, Repr

/-- The wording of an error. -/
def Error.message : Error → String
  | .wrongLength bytes => s!"model hash must be {textLength} hex chars, got {bytes}"
  | .badHex error => "invalid model hash hex: " ++ error.message

/-- The digest that a text spells. -/
def parse (s : String) : Except Error ModelHash :=
  let bytes := textBytes s
  if bytes.length ≠ textLength then .error (.wrongLength bytes.length)
  else
    match Hex.decodeSized 32 bytes with
    | .ok octets => .ok ⟨octets⟩
    | .error e => .error (.badHex e)

/-- Reads a digest from a string. -/
def read : Json.Reader ModelHash :=
  Json.readSpelled "a string" fun s =>
    (parse s).mapError fun e => ErrorClass.parameter.sentence e.message

end ModelHash

end ModelProtection
