/-
Certificates.

A certificate says which public key belongs to a subject, and from when to when.
It is signed with the very key that it names. What is signed is the compact JSON
text of its body, so a certificate that was read is checked against the text
that its body has when it is written again. The written form of a certificate is
Base64 between two lines of armour.

The public key is kept as the text that stands in the body. It is decoded when a
signature is checked, and compared as text when it is asked whose key it is.
-/
import ModelProtection.Json.Record
import ModelProtection.Json.Tree
import ModelProtection.Primitive.Ed25519
import ModelProtection.Text.Base64
import ModelProtection.Text.Hex
import ModelProtection.Text.Line
import ModelProtection.Time.Timestamp

set_option autoImplicit false

namespace ModelProtection

namespace Certificate

/-- What a certificate says. -/
structure Body where
  /-- Whom the key belongs to. -/
  subject : String
  /-- The digits of the public key. -/
  publicKey : String
  /-- The first instant at which the certificate is valid. -/
  notBefore : Instant
  /-- The last instant at which the certificate is valid. -/
  notAfter : Instant
deriving DecidableEq

/-- The tree of a body. -/
def Body.toJson (b : Body) : Json :=
  .object [("subject", .text b.subject), ("public_key", .text b.publicKey),
    ("not_before", .text b.notBefore.timestamp), ("not_after", .text b.notAfter.timestamp)]

/-- The bytes that the signature of a certificate covers. -/
def Body.signedBytes (b : Body) : Bytes := Utf8.encode b.toJson.compact

end Certificate

/-- A body with a signature. -/
structure Certificate where
  /-- What the certificate says. -/
  body : Certificate.Body
  /-- The signature. -/
  signature : Octets 64
deriving DecidableEq

namespace Certificate

/-! ## Issuing -/

/-- A certificate for the key of a seed, valid between two instants. -/
def issueBetween (seed : Octets 32) (subject : String) (notBefore notAfter : Instant) : Certificate :=
  let body : Body :=
    { subject, publicKey := Hex.encode (Ed25519.publicKey seed).toList, notBefore, notAfter }
  ⟨body, Ed25519.sign seed body.signedBytes⟩

/-- Why a certificate could not be issued. -/
inductive IssueError where
  /-- The number of days is not positive. -/
  | validityNotPositive (days : Int)
  /-- There is no instant so many days later. -/
  | validityOutOfRange (days : Int)
deriving DecidableEq, Repr

/-- The wording of an error. -/
def IssueError.message : IssueError → String
  | .validityNotPositive days => s!"certificate validity must be positive, got {days} days"
  | .validityOutOfRange days => s!"certificate validity of {days} days is out of range"

/-- A certificate for the key of a seed that is valid from now for some days. -/
def issue (seed : Octets 32) (subject : String) (days : Int) (now : Instant) :
    Except IssueError Certificate :=
  if days ≤ 0 then .error (.validityNotPositive days)
  else
    match now.addDays? days.toNat with
    | some notAfter => .ok (issueBetween seed subject now notAfter)
    | none => .error (.validityOutOfRange days)

/-! ## Writing -/

/-- The tree of a certificate. -/
def toJson (c : Certificate) : Json :=
  .object [("body", c.body.toJson), ("signature", .text (Hex.encode c.signature.toList))]

/-- The first line of a written certificate. -/
def beginLine : List Char := "-----BEGIN MODELSEAL CERTIFICATE-----".toList

/-- The last line of a written certificate. -/
def endLine : List Char := "-----END MODELSEAL CERTIFICATE-----".toList

/-- The number of symbols on a line. -/
def columns : Nat := 64

/-- The symbols of a written certificate. -/
def symbols (c : Certificate) : List Char := Base64.encodeChars (Utf8.encode c.toJson.compact)

/-- A text on lines of `columns` characters, each with its end. `fuel` bounds the number of lines. -/
def wrapped : Nat → List Char → List Char
  | _, [] => []
  | 0, _ :: _ => []
  | fuel + 1, c :: l =>
    (c :: l).take columns ++ '\n' :: wrapped fuel ((c :: l).drop columns)

/-- The written form of a certificate. -/
def write (c : Certificate) : String :=
  let l := c.symbols
  String.ofList (beginLine ++ '\n' :: wrapped l.length l ++ endLine ++ ['\n'])

/-! ## Errors -/

/-- What is wrong with a certificate. -/
inductive Error where
  /-- The armour is missing. -/
  | noArmour
  /-- What stands in the armour is not Base64. -/
  | base64 (error : Base64.Error)
  /-- What was decoded is not a certificate. -/
  | body (error : Json.Error)
  /-- The signature is not written in digits. -/
  | signatureDigits (error : Hex.Error)
  /-- The signature has the wrong length. -/
  | signatureLength
  /-- The public key is not written in digits. -/
  | keyDigits (error : Hex.Error)
  /-- The public key has the wrong length. -/
  | keyLength
  /-- The public key is no point of the curve. -/
  | keyNotOnCurve
  /-- The signature is not one of the body by its own key. -/
  | badSignature
  /-- The certificate is not valid yet. -/
  | notYetValid (notBefore : Instant)
  /-- The certificate is not valid any more. -/
  | expired (notAfter : Instant)
deriving DecidableEq

/-- The wording of an error. -/
def Error.message : Error → String
  | .noArmour => "certificate armour missing"
  | .base64 error => "certificate base64: " ++ error.message
  | .body error => "certificate body: " ++ error.message
  | .signatureDigits error => "certificate signature hex: " ++ error.message
  | .signatureLength => "certificate signature must be 64 bytes"
  | .keyDigits error => "public key hex: " ++ error.message
  | .keyLength => "public key must be 32 bytes"
  | .keyNotOnCurve => "invalid public key: signature error: Cannot decompress Edwards point"
  | .badSignature => "certificate self-signature does not verify"
  | .notYetValid notBefore => "certificate not valid before " ++ notBefore.shown
  | .expired notAfter => "certificate expired at " ++ notAfter.shown

/-! ## Reading -/

/-- A body some of whose fields have been read. -/
structure BodyDraft where
  /-- The subject. -/
  subject : Option String := none
  /-- The public key. -/
  publicKey : Option String := none
  /-- The start of the validity. -/
  notBefore : Option Instant := none
  /-- The end of the validity. -/
  notAfter : Option Instant := none

/-- Reads a timestamp. -/
def readInstant : Json.Reader Instant :=
  Json.readSpelled "an RFC 3339 formatted date and time string" fun s =>
    (Timestamp.parse s).mapError Timestamp.Error.message

/-- How a body is read. -/
def bodyRecord : Json.Record BodyDraft Body where
  name := "struct CertificateBody"
  fields := [
    .of "subject" Json.readText (·.subject) fun v s => { s with subject := some v },
    .of "public_key" Json.readText (·.publicKey) fun v s => { s with publicKey := some v },
    .of "not_before" readInstant (·.notBefore) fun v s => { s with notBefore := some v },
    .of "not_after" readInstant (·.notAfter) fun v s => { s with notAfter := some v }]
  empty := {}
  finish := fun s => return {
    subject := ← s.subject, publicKey := ← s.publicKey
    notBefore := ← s.notBefore, notAfter := ← s.notAfter }

/-- A certificate some of whose fields have been read. -/
structure Draft where
  /-- The body. -/
  body : Option Body := none
  /-- The digits of the signature. -/
  signature : Option String := none

/-- How a certificate is read: as its body and the digits of its signature. -/
def record : Json.Record Draft (Body × String) where
  name := "struct SignedCertificate"
  fields := [
    .of "body" bodyRecord.read (·.body) fun v s => { s with body := some v },
    .of "signature" Json.readText (·.signature) fun v s => { s with signature := some v }]
  empty := {}
  finish := fun s => return (← s.body, ← s.signature)

/-- What stands in the armour, without white space. -/
def unwrap? (text : List Char) : Option (List Char) :=
  ((afterStart? beginLine (Space.trim text)).bind (beforeEnd? endLine)).map Space.strip

/-- The certificate that a text spells. -/
def parse (text : String) : Except Error Certificate := do
  let some encoded := unwrap? text.toList | throw .noArmour
  let decoded ← (Base64.decode (Utf8.encode encoded)).mapError .base64
  let (body, digits) ← (Json.readAll record.read decoded).mapError .body
  let bytes ← (Hex.decode (textBytes digits)).mapError .signatureDigits
  let some signature := Octets.ofList? 64 bytes | throw .signatureLength
  return ⟨body, signature⟩

/-! ## Checks -/

/-- The public key that a certificate names. -/
def key (c : Certificate) : Except Error Ed25519.VerifyingKey := do
  let bytes ← (Hex.decode (textBytes c.body.publicKey)).mapError .keyDigits
  let some octets := Octets.ofList? 32 bytes | throw .keyLength
  let some key := Ed25519.VerifyingKey.ofBytes? octets | throw .keyNotOnCurve
  return key

/-- Checks that the signature is one of the body by the key that the body names. -/
def checkSignature (c : Certificate) : Except Error Unit := do
  let key ← c.key
  if key.verify c.body.signedBytes c.signature then return () else throw .badSignature

/-- Checks that a certificate is valid at an instant. -/
def checkLifetime (c : Certificate) (instant : Instant) : Except Error Unit :=
  if instant < c.body.notBefore then .error (.notYetValid c.body.notBefore)
  else if c.body.notAfter < instant then .error (.expired c.body.notAfter)
  else .ok ()

/-- Whether a certificate names a public key in the digits in which it is written. -/
def binds (c : Certificate) (publicKey : Octets 32) : Bool :=
  c.body.publicKey == Hex.encode publicKey.toList

end Certificate

end ModelProtection
