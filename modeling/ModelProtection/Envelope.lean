/-
Sealed documents.

A sealed document is the document followed by an armour block that carries its
tag: a signature, or an authentication code, in hexadecimal digits. The document
may hold any bytes, armour blocks included. What counts is the last block, which
must end the text, so the document that a tag covers is exactly the one that was
sealed.
-/
import ModelProtection.Buffer
import ModelProtection.Error.Class
import ModelProtection.Size
import ModelProtection.Text.Hex
import ModelProtection.Text.Line
import ModelProtection.Text.Utf8

set_option autoImplicit false

namespace ModelProtection

namespace Envelope

/-- What the tag of a sealed document is. -/
inductive Kind where
  /-- A signature by an identity key. -/
  | signature
  /-- An authentication code under a derived key. -/
  | mac
deriving DecidableEq, Repr

/-- The word for a kind in the armour. -/
def Kind.label : Kind → String
  | .signature => "SIGNATURE"
  | .mac => "HMAC"

instance : ToString Kind := ⟨Kind.label⟩

/-- The kind with a label. -/
def Kind.ofLabel? (label : List Char) : Option Kind :=
  if label = Kind.signature.label.toList then some .signature
  else if label = Kind.mac.label.toList then some .mac
  else none

end Envelope

/-- A sealed document, taken apart. -/
structure Envelope where
  /-- The document that the tag covers. -/
  data : Bytes
  /-- What the tag is. -/
  kind : Envelope.Kind
  /-- The digits of the tag. -/
  tag : String
deriving DecidableEq

namespace Envelope

/-! ## Sealing -/

/-- The most digits of a tag. -/
def mostTag : Nat := 128

/-- The most bytes of armour around a tag. -/
def armourSize : Nat := 96

/-- The start of the first line of armour. -/
def beginMark : List Char := "-----BEGIN MODELSEAL ".toList

/-- The start of the last line of armour. -/
def endMark : List Char := "-----END MODELSEAL ".toList

/-- The end of both lines. -/
def dashes : List Char := "-----".toList

/-- The size of the buffer for a sealed document of `size` bytes, by sums that nothing checks. -/
def capacity (size : Nat) : Except Size.Overflow Nat := do
  let tagged ← Size.add size mostTag
  Size.add tagged armourSize

/-- The pieces of an armour block. -/
def armourPieces (kind : Kind) (tag : String) : List (List Char) :=
  let label := kind.label.toList
  [['\n'], beginMark, label, dashes, ['\n'], tag.toList, ['\n'], endMark, label, dashes, ['\n']]

/-- The pieces of a sealed document. -/
def pieces (e : Envelope) : List Bytes := e.data :: (armourPieces e.kind e.tag).map Utf8.encode

/-- Why a document could not be sealed. -/
inductive SealError where
  /-- The tag has too many digits. -/
  | tagTooLong (kind : Kind) (length : Nat)
  /-- The buffer could not be reserved. -/
  | reserve (error : Buffer.ReserveError)
  /-- The buffer is too small. -/
  | write (kind : Kind) (error : Buffer.WriteError)
deriving DecidableEq

/-- The class of an error. -/
def SealError.errorClass : SealError → ErrorClass
  | .tagTooLong .. => .parameter
  | .reserve _ => .allocation
  | .write .. => .serialization

/-- The wording of an error. -/
def SealError.message : SealError → String
  | .tagTooLong kind length => s!"{kind} tag of {length} chars exceeds {mostTag}"
  | .reserve error => error.message
  | .write kind error => s!"sealing {kind} envelope: {error.message}"

/-- The sealed form of a document. -/
def encode (e : Envelope) : Except SealError Bytes :=
  let length := (textBytes e.tag).length
  if mostTag < length then .error (.tagTooLong e.kind length)
  else
    match capacity e.data.length with
    -- no byte string in memory is as long as that, and no buffer for it could be had either
    | .error _ => .error (.reserve ⟨e.data.length + mostTag + armourSize⟩)
    | .ok capacity =>
      match Buffer.reserve capacity with
      | .error error => .error (.reserve error)
      | .ok buffer =>
        match buffer.writeAll e.pieces with
        | .error error => .error (.write e.kind error)
        | .ok buffer => .ok buffer.content

/-! ## Opening -/

/-- Why a byte string is not a sealed document. -/
inductive Error where
  /-- There is no armour. -/
  | noArmour
  /-- The armour is not text. -/
  | notText (error : Utf8.Error)
  /-- The first line is not finished. -/
  | badHeader
  /-- The first line names an unknown kind. -/
  | unknownKind (label : String)
  /-- The last line does not match the first. -/
  | badFooter
  /-- Something follows the armour, or its last line has no end. -/
  | trailingBytes
  /-- The tag is empty, too long, or has a character that is no digit. -/
  | badTag
deriving DecidableEq, Repr

/-- The wording of an error. -/
def Error.message : Error → String
  | .noArmour => "envelope armour not found"
  | .notText error => "envelope armour is not UTF-8: " ++ error.message
  | .badHeader => "malformed envelope header"
  | .unknownKind label => "unknown envelope kind " ++ Quoted.text label
  | .badFooter => "malformed envelope footer"
  | .trailingBytes => "trailing bytes after envelope"
  | .badTag => "malformed envelope tag"

/-- Whether a text is a tag. -/
def isTag (tag : List Char) : Bool :=
  !tag.isEmpty && tag.all Hex.isDigit && tag.length ≤ mostTag

/-- The kind and the tag of an armour block, from its lines. -/
def ofLines (l : List (List Char)) : Except Error (Kind × List Char) := do
  let header := l.getD 0 []
  let tag := l.getD 1 []
  let footer := l.getD 2 []
  let some label := (afterStart? beginMark header).bind (beforeEnd? dashes) | throw .badHeader
  let some kind := Kind.ofLabel? label | throw (.unknownKind (String.ofList label))
  if footer ≠ endMark ++ label ++ dashes then throw .badFooter
  if l.drop 3 ≠ [[]] then throw .trailingBytes
  if isTag tag then return (kind, tag) else throw .badTag

/-- The document and the tag of a sealed document. -/
def decode (sealedBytes : Bytes) : Except Error Envelope := do
  let some (data, block) := splitAtLast? (Utf8.encode ('\n' :: beginMark)) sealedBytes
    | throw .noArmour
  match Utf8.decodeChars (block.drop 1) with
  | .error error => throw (.notText error)
  | .ok text =>
    let (kind, tag) ← ofLines (lines text)
    return ⟨data, kind, String.ofList tag⟩

end Envelope

end ModelProtection
