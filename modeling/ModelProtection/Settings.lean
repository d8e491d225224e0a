/-
Settings.

Settings say which keystore is used when a command names none, where relative
outputs go, and what happens to the last byte of a file. They are a flat mapping
in YAML; each setting may be left out, none may stand twice, and there are no
others.
-/
import ModelProtection.Host.World
import ModelProtection.Protect.Input
import ModelProtection.Yaml.Mapping

set_option autoImplicit false

namespace ModelProtection

/-- What commands fall back to. -/
structure Settings where
  /-- The keystore. -/
  keystore : Option Path := none
  /-- The directory that relative outputs are put into. -/
  outputDirectory : Option Path := none
  /-- What happens to the last byte of each file. -/
  trailingByte : TrailingByte := .strip
deriving DecidableEq

namespace Yaml.Scalar

/-- The tag of scalars that are null. -/
def nullTag : Bytes := textBytes "tag:yaml.org,2002:null"

/-- Whether a text spells null. -/
def spellsNull (text : String) : Bool := ["null", "Null", "NULL", "~"].contains text

/-- The text of a scalar that may be null. Null is plain; with a tag of its own it must be spelled,
and with any other tag there is no null. -/
def optionalText? (s : Scalar) : Option (Option String) :=
  if !s.isPlain then some (some s.text)
  else
    match s.tag with
    | some tag =>
      if tag ≠ nullTag then some (some s.text) else if spellsNull s.text then some none else none
    | none => some (if s.text.isEmpty || spellsNull s.text then none else some s.text)

/-- The tag of a scalar without its exclamation mark, if it belongs to the document alone. -/
def ownTag? (s : Scalar) : Option String :=
  match s.tag with
  | some (b :: name) =>
    if b = 0x21 then (Utf8.decode (if name.isEmpty then [b] else name)).toOption else none
  | _ => none

/-- The choice that a scalar makes: by its text or, if nothing else is written, by a tag that belongs
to the document alone. -/
def choice? {α : Type} (choices : List (String × α)) (s : Scalar) : Option α :=
  match s.ownTag? with
  | some name =>
    if s.isPlain && (s.text.isEmpty || spellsNull s.text) then choices.lookup name else none
  | none => choices.lookup s.text

end Yaml.Scalar

namespace Settings

/-! ## Reading -/

/-- A setting and its value. -/
inductive Setting where
  /-- The keystore. -/
  | keystore (path : Option Path)
  /-- The directory that relative outputs are put into. -/
  | outputDirectory (path : Option Path)
  /-- What happens to the last byte of each file. -/
  | trailingByte (policy : TrailingByte)
deriving DecidableEq

/-- The path that a scalar spells, unless it is null. -/
def path? (s : Yaml.Scalar) : Option (Option Path) := s.optionalText?.map (·.map Path.ofString)

/-- The setting in an entry. -/
def setting? (name : String) (s : Yaml.Scalar) : Option Setting :=
  if name = "keystore" then (path? s).map .keystore
  else if name = "output_dir" then (path? s).map .outputDirectory
  else if name = "trailing_byte" then (s.choice? TrailingByte.choices).map .trailingByte
  else none

/-- Settings with one of them changed. -/
def withSetting (s : Settings) : Setting → Settings
  | .keystore path => { s with keystore := path }
  | .outputDirectory path => { s with outputDirectory := path }
  | .trailingByte policy => { s with trailingByte := policy }

/-- The settings in a text. -/
def ofText? (text : String) : Option Settings := do
  let entries ← Yaml.flatMapping? text
  let names := entries.map (·.1.text)
  if !names.Nodup then none
  let settings ← entries.mapM fun (name, s) => setting? name.text s
  return settings.foldl withSetting {}

/-! ## Files of settings -/

/-- Why settings cannot be had. -/
inductive Error where
  /-- The file cannot be read. -/
  | unreadable (path : Path) (error : FileError)
  /-- The file is not text. -/
  | notText (path : Path)
  /-- The text is not a mapping with settings. -/
  | malformed (path : Path)
deriving DecidableEq

/-- The wording of an error. -/
def Error.message : Error → String
  | .unreadable path error => s!"failed to read config file: {path}: {error}"
  | .notText path => s!"failed to read config file: {path}: stream did not contain valid UTF-8"
  | .malformed path => s!"failed to parse config file: {path}"

instance : ToString Error := ⟨Error.message⟩

/-- The settings in the content of a file. -/
def ofContent (path : Path) (content : Bytes) : Except Error Settings :=
  match Utf8.decode content with
  | .error _ => .error (.notText path)
  | .ok text =>
    match ofText? text with
    | some s => .ok s
    | none => .error (.malformed path)

section Host

variable {m : Type → Type} [Monad m] [Host m]

/-- The settings in the file at a path; without a path, those that say nothing. -/
def load : Option Path → m (Except Error Settings)
  | none => return .ok {}
  | some path => do
    match ← Host.readFile path with
    | .error e => return .error (.unreadable path e)
    | .ok content => return ofContent path content

end Host

/-! ## Outputs -/

/-- The path at which an output is written. -/
def outputPath (s : Settings) (p : Path) : Path := p.underOptional s.outputDirectory

end Settings

end ModelProtection
