/-
Why a JSON text was refused.

Each constructor is a cause. The syntax errors say where in the grammar the text
went wrong; the others say that a well-formed value is not what the reader
wanted. `Error.message` has the wording of all of them.
-/
import ModelProtection.Text.Quoted

set_option autoImplicit false

namespace ModelProtection

namespace Json

/-- The value that stands where a value of another kind was wanted. -/
inductive Found where
  /-- The value `null`. -/
  | null
  /-- A truth value. -/
  | boolean (value : Bool)
  /-- A whole number. -/
  | integer (value : Int)
  /-- A number with a fraction, an exponent or too many digits, in its shortest text. -/
  | number (shown : String)
  /-- A string. -/
  | text (value : String)
  /-- A list. -/
  | list
  /-- An object. -/
  | object
deriving DecidableEq, Repr

/-- The wording for a value. -/
def Found.message : Found → String
  | .null => "null"
  | .boolean value => "boolean \x60" ++ (if value then "true" else "false") ++ "\x60"
  | .integer value => "integer \x60" ++ toString value ++ "\x60"
  | .number shown => "floating point \x60" ++ shown ++ "\x60"
  | .text value => "string " ++ Quoted.text value
  | .list => "sequence"
  | .object => "map"

/-- Why a text was refused. -/
inductive Error where
  /-- The text ends where a value should stand, or inside a literal. -/
  | endInValue
  /-- The text ends inside a string. -/
  | endInString
  /-- The text ends inside a list. -/
  | endInList
  /-- The text ends inside an object. -/
  | endInObject
  /-- No value starts here. -/
  | noValue
  /-- A literal is misspelt. -/
  | badLiteral
  /-- A number is misspelt. -/
  | badNumber
  /-- A number is too large for a double. -/
  | numberTooLarge
  /-- An escape is misspelt. -/
  | badEscape
  /-- A leading surrogate is followed by something that is no escape. -/
  | unpairedEscape
  /-- An escape is a surrogate without its partner. -/
  | loneSurrogate
  /-- A string is not encoded as text. -/
  | notText
  /-- A control character stands in a string. -/
  | controlCharacter
  /-- A key is not followed by a colon. -/
  | noColon
  /-- An element is followed by neither a comma nor the end of its list. -/
  | noCommaInList
  /-- A member is followed by neither a comma nor the end of its object. -/
  | noCommaInObject
  /-- A comma stands in front of the end. -/
  | trailingComma
  /-- A key is not a string. -/
  | keyNotText
  /-- The value is followed by something. -/
  | trailingText
  /-- A value has the wrong kind. -/
  | wrongKind (found : Found) (expected : String)
  /-- A list ends before the element at position `length`. -/
  | tooShort (length : Nat) (expected : String)
  /-- An object lacks a field. -/
  | missingField (name : String)
  /-- An object has a field twice. -/
  | duplicateField (name : String)
  /-- A name is not one of the choices. -/
  | unknownChoice (name : String) (choices : String)
  /-- A value of the right kind was refused by its reader. -/
  | rejected (reason : String)
deriving DecidableEq, Repr

/-- A name between back quotes. -/
def named (name : String) : String := "\x60" ++ name ++ "\x60"

/-- The wording of an error. -/
def Error.message : Error → String
  | .endInValue => "EOF while parsing a value"
  | .endInString => "EOF while parsing a string"
  | .endInList => "EOF while parsing a list"
  | .endInObject => "EOF while parsing an object"
  | .noValue => "expected value"
  | .badLiteral => "expected ident"
  | .badNumber => "invalid number"
  | .numberTooLarge => "number out of range"
  | .badEscape => "invalid escape"
  | .unpairedEscape => "unexpected end of hex escape"
  | .loneSurrogate => "lone leading surrogate in hex escape"
  | .notText => "invalid unicode code point"
  | .controlCharacter => "control character (\\u0000-\\u001F) found while parsing a string"
  | .noColon => "expected " ++ named ":"
  | .noCommaInList => "expected " ++ named "," ++ " or " ++ named "]"
  | .noCommaInObject => "expected " ++ named "," ++ " or " ++ named "\x7d"
  | .trailingComma => "trailing comma"
  | .keyNotText => "key must be a string"
  | .trailingText => "trailing characters"
  | .wrongKind found expected => "invalid type: " ++ found.message ++ ", expected " ++ expected
  | .tooShort length expected => "invalid length " ++ toString length ++ ", expected " ++ expected
  | .missingField name => "missing field " ++ named name
  | .duplicateField name => "duplicate field " ++ named name
  | .unknownChoice name choices => "unknown variant " ++ named name ++ ", expected " ++ choices
  | .rejected reason => reason

instance : ToString Error := ⟨Error.message⟩

end Json

end ModelProtection
