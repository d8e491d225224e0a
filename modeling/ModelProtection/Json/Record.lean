/-
Reading JSON as values of known kinds.

The program keeps what it knows in records of named fields. A record is read
from an object, whose members may come in any order and whose other members are
passed over, or from a list with one element per field. Reading goes from left
to right and stops at the first fault, whether that is a fault of syntax or of
meaning; only fields that are missing are noticed at the end.

A record that is being read is a value of some type `σ` in which every field may
still be absent. A `Field` knows its name, whether it is there, and how to read
it; `finish` turns the value into the record once all fields are there.
-/
import ModelProtection.Json.Scan

set_option autoImplicit false

namespace ModelProtection

namespace Json

/-! ## Single values -/

/-- Reads the value at the front and says that its kind is wrong. -/
def wrongKind {α : Type} (expected : String) : Bytes → Except Error α
  | [] => .error .endInValue
  | b :: l =>
    let found : Except Error Found :=
      if b = ascii 'n' then (readLiteral nullTail l).map fun _ => .null
      else if b = ascii 't' then (readLiteral trueTail l).map fun _ => .boolean true
      else if b = ascii 'f' then (readLiteral falseTail l).map fun _ => .boolean false
      else if b = ascii '-' then (readNumber true l).map (·.1)
      else if isDigit b then (readNumber false (b :: l)).map (·.1)
      else if b = ascii '"' then (readString l).map fun r => .text r.1
      else if b = ascii '[' then .ok .list
      else if b = ascii '\x7b' then .ok .object
      else .error .noValue
    match found with
    | .ok found => .error (.wrongKind found expected)
    | .error e => .error e

/-- Reads a string. A value of another kind is refused with the wording `expected`. -/
def readTextAs (expected : String) : Reader String := fun l =>
  match skipBlank l with
  | [] => .error .endInValue
  | b :: r => if b = ascii '"' then readString r else wrongKind expected (b :: r)

/-- Reads a string. -/
def readText : Reader String := readTextAs "a string"

/-- Reads a string that spells a value. -/
def readSpelled {α : Type} (expected : String) (parse : String → Except String α) : Reader α := fun l => do
  let (s, rest) ← readTextAs expected l
  match parse s with
  | .ok a => return (a, rest)
  | .error reason => throw (.rejected reason)

/-- Reads `null`. -/
def readNull : Reader Unit := fun l =>
  match skipBlank l with
  | [] => .error .endInValue
  | b :: r =>
    if b = ascii 'n' then (readLiteral nullTail r).map ((), ·) else wrongKind "unit" (b :: r)

/-- Takes the colon behind a key. -/
def colon (l : Bytes) : Except Error Bytes :=
  match skipBlank l with
  | [] => .error .endInObject
  | b :: r => if b = ascii ':' then .ok r else .error .noColon

/-- Reads one of several names, alone or as the only key of an object with the value `null`. -/
def readChoice {α : Type} (options : List (String × α)) : Reader α := fun l =>
  match skipBlank l with
  | [] => .error .endInValue
  | b :: r =>
    if b = ascii '"' then do
      let (name, rest) ← readTextAs "variant identifier" (b :: r)
      let a ← pick name
      return (a, rest)
    else if b = ascii '\x7b' then do
      let (name, rest) ← readTextAs "variant identifier" r
      let a ← pick name
      let rest ← colon rest
      let (_, rest) ← readNull rest
      match skipBlank rest with
      | [] => throw .endInObject
      | c :: rest => if c = ascii '\x7d' then return (a, rest) else throw .noValue
    else .error .noValue
where
  /-- The value of a name. -/
  pick (name : String) : Except Error α :=
    match options.lookup name with
    | some a => .ok a
    | none =>
      .error (.unknownChoice name (String.intercalate " or " (options.map fun o => named o.1)))

/-! ## Records -/

/-- A field of a record that is being read as a value of type `σ`. -/
structure Field (σ : Type) where
  /-- The key of the field. -/
  name : String
  /-- Whether the field has been read. -/
  present : σ → Bool
  /-- Reads the field into the record. -/
  read : σ → Reader σ

/-- The field with a name whose value is read by `reader`; `get` and `set` say where the record that
is being read keeps it. -/
def Field.of {σ α : Type} (name : String) (reader : Reader α) (get : σ → Option α)
    (set : α → σ → σ) : Field σ where
  name := name
  present s := (get s).isSome
  read s l := (reader l).map fun (a, rest) => (set a s, rest)

/-- How a record is read. -/
structure Record (σ α : Type) where
  /-- The name of the record in messages. -/
  name : String
  /-- The fields, in the order in which a list has them. -/
  fields : List (Field σ)
  /-- The record in which no field has been read. -/
  empty : σ
  /-- The record with all fields read. -/
  finish : σ → Option α

namespace Record

variable {σ α : Type}

/-- The first field that was not read is missing. -/
def complete (r : Record σ α) (s : σ) : Except Error α :=
  match r.fields.find? (fun f => !f.present s) with
  | some f => .error (.missingField f.name)
  | none =>
    match r.finish s with
    | some a => .ok a
    | none => .error .endInValue

/-- Reads the members of an object up to its end, which is left in place. `fuel` bounds the number of
members; each takes at least one byte. -/
def members (r : Record σ α) : Nat → Bool → σ → Reader σ
  | 0, _, _, _ => .error .endInObject
  | fuel + 1, first, s, l =>
    match skipBlank l with
    | [] => .error .endInObject
    | b :: rest =>
      if b = ascii '\x7d' then .ok (s, b :: rest)
      else if first then key fuel s (b :: rest)
      else if b = ascii ',' then
        match skipBlank rest with
        | [] => .error .endInValue
        | c :: rest =>
          if c = ascii '\x7d' then .error .trailingComma else key fuel s (c :: rest)
      else .error .noCommaInObject
where
  /-- Reads a member whose key starts here, and the members behind it. -/
  key (fuel : Nat) (s : σ) (l : Bytes) : Except Error (σ × Bytes) :=
    match l with
    | [] => .error .endInValue
    | b :: rest =>
      if b ≠ ascii '"' then .error .keyNotText
      else
        match readString rest with
        | .error e => .error e
        | .ok (name, rest) =>
          match r.fields.find? (·.name == name) with
          | some f =>
            if f.present s then .error (.duplicateField name)
            else
              match colon rest with
              | .error e => .error e
              | .ok rest =>
                match f.read s rest with
                | .error e => .error e
                | .ok (s, rest) => members r fuel false s rest
          | none =>
            match colon rest with
            | .error e => .error e
            | .ok rest =>
              match skipValue rest with
              | .error e => .error e
              | .ok rest => members r fuel false s rest

/-- Reads the elements of a list, one for each of the fields that are left. `position` counts the
elements in front. -/
def elements (r : Record σ α) (position : Nat) (s : σ) : List (Field σ) → Reader σ
  | [], l => .ok (s, l)
  | f :: fields, l => do
    let expected := r.name ++ " with " ++ toString r.fields.length ++ " elements"
    let start ← match skipBlank l with
      | [] => throw .endInList
      | b :: rest =>
        if b = ascii ']' then throw (.tooShort position expected)
        else if position = 0 then pure (b :: rest)
        else if b = ascii ',' then
          match skipBlank rest with
          | [] => throw .endInValue
          | c :: rest => if c = ascii ']' then throw .trailingComma else pure (c :: rest)
        else throw .noCommaInList
    let (s, rest) ← f.read s start
    elements r (position + 1) s fields rest

/-- Takes the end of an object. -/
def closeObject (l : Bytes) : Except Error Bytes :=
  match skipBlank l with
  | [] => .error .endInObject
  | b :: rest =>
    if b = ascii '\x7d' then .ok rest
    else if b = ascii ',' then .error .trailingComma
    else .error .trailingText

/-- Takes the end of a list. -/
def closeList (l : Bytes) : Except Error Bytes :=
  match skipBlank l with
  | [] => .error .endInList
  | b :: rest =>
    if b = ascii ']' then .ok rest
    else if b = ascii ',' then
      match skipBlank rest with
      | c :: _ => if c = ascii ']' then .error .trailingComma else .error .trailingText
      | [] => .error .trailingText
    else .error .trailingText

/-- Reads a record. -/
def read (r : Record σ α) : Reader α := fun l =>
  match skipBlank l with
  | [] => .error .endInValue
  | b :: rest =>
    if b = ascii '[' then do
      let (s, rest) ← r.elements 0 r.empty r.fields rest
      let a ← r.complete s
      let rest ← closeList rest
      return (a, rest)
    else if b = ascii '\x7b' then do
      let (s, rest) ← r.members (rest.length + 1) true r.empty rest
      let a ← r.complete s
      let rest ← closeObject rest
      return (a, rest)
    else wrongKind r.name (b :: rest)

end Record

/-! ## Whole texts -/

/-- Reads a value that fills the whole text. -/
def readAll {α : Type} (reader : Reader α) (l : Bytes) : Except Error α := do
  let (a, rest) ← reader l
  if skipBlank rest = [] then return a else throw .trailingText

end Json

end ModelProtection
