/-
Invocations.

The arguments of the program are read from the front. An argument with hyphens
is an option or several, and a value stands in the same argument or in the next.
What belongs to an option is settled when the next option begins or the
arguments end, so the first fault is not always the one that is reported: an
option that nobody knows is refused before a missing value in front of it. A
command reads the arguments behind its name first and settles its own last
option afterwards.
-/
import ModelProtection.CommandLine.Option
import ModelProtection.Text.Line

set_option autoImplicit false

namespace ModelProtection

namespace CommandLine

/-- Why the arguments do not say what is to be done. -/
inductive Refusal where
  /-- An option that must be given is missing. -/
  | missingOption
  /-- There is no such option, or no place for an argument. -/
  | unknownArgument
  /-- An option that is given once is given again. -/
  | repeatedOption
  /-- An option has no value, or a path is empty. -/
  | missingValue
  /-- A value is no number. -/
  | malformedValue
  /-- A value is not text. -/
  | valueNotText
  /-- A flag has a value. -/
  | unwantedValue
  /-- There is no such command. -/
  | unknownCommand
  /-- Options are given but no command. -/
  | missingCommand
  /-- Nothing is given. -/
  | nothing
  /-- It was asked how a command is used. -/
  | helpWanted
  /-- It was asked which program this is. -/
  | versionWanted
deriving DecidableEq, Repr

/-- The exit code for a refusal. An answer to a question is no failure. -/
def Refusal.exitCode : Refusal → Nat
  | helpWanted => 0
  | versionWanted => 0
  | _ => 2

/-! ## Values -/

/-- A value of an option. -/
inductive Value where
  /-- A text. -/
  | text (text : String)
  /-- A path. -/
  | path (path : Path)
  /-- A whole number. -/
  | integer (value : Int)
deriving DecidableEq

/-- The number that decimal digits spell, of which there is at least one. -/
def digits? (l : List Char) : Option Nat :=
  if !l.isEmpty && l.all Char.isDigit then
    some (l.foldl (fun n c => n * 10 + (c.toNat - '0'.toNat)) 0)
  else none

/-- Whole numbers of 64 bits are below this and not below its negation. -/
def integerBound : Int := Nat.pow 2 63

/-- The whole number of 64 bits that a text spells, with or without a sign. -/
def integer? (l : List Char) : Option Int := do
  let n ← match l with
    | '-' :: l => (digits? l).map fun n => -(n : Int)
    | '+' :: l => (digits? l).map Int.ofNat
    | l => (digits? l).map Int.ofNat
  if -integerBound ≤ n ∧ n < integerBound then some n else none

/-- The text that an argument is. -/
def readText (raw : Bytes) : Except Refusal String :=
  match Utf8.decode raw with
  | .ok s => .ok s
  | .error _ => .error .valueNotText

/-- The value that an argument spells. -/
def ValueKind.read (kind : ValueKind) (raw : Bytes) : Except Refusal Value :=
  match kind with
  | .text => (readText raw).map .text
  | .path => if raw.isEmpty then .error .missingValue else .ok (.path ⟨raw⟩)
  | .integer => do
    match integer? (← readText raw).toList with
    | some n => return .integer n
    | none => throw .malformedValue

/-! ## Reading the arguments of one command -/

/-- Arguments whose option is not settled yet. -/
structure Pending where
  /-- The option; none for arguments that belong to no option. -/
  option : Option OptionName
  /-- The arguments so far. -/
  values : List Bytes
deriving DecidableEq

/-- Whether the next argument can be one more value. -/
def Pending.isOpen (p : Pending) : Bool :=
  match p.option.map OptionName.usage with
  | some (.single _) => p.values.isEmpty
  | some (.several _) => true
  | _ => false

/-- What is known of the arguments of a command. -/
structure Level where
  /-- The options that are settled, in order, each time they are given. -/
  given : List (OptionName × List Value) := []
  /-- The arguments that belong to no option. -/
  extra : List String := []
  /-- The last arguments. -/
  pending : Option Pending := none
  /-- Whether two hyphens alone have been passed; no argument is an option from there on. -/
  optionsEnded : Bool := false

namespace Level

/-- Whether an option is given. -/
def has (level : Level) (o : OptionName) : Bool := level.given.any (·.1 == o)

/-- All values of an option. -/
def values (level : Level) (o : OptionName) : List Value :=
  (level.given.filter (·.1 == o)).flatMap (·.2)

/-- The level with an option given once more. -/
def add (level : Level) (o : OptionName) (values : List Value) : Level :=
  { level with given := level.given ++ [(o, values)] }

/-- Settles an option with its arguments. -/
def record (level : Level) (o : OptionName) (raw : List Bytes) : Except Refusal Level := do
  match o.usage with
  | .help => throw .helpWanted
  | .version => throw .versionWanted
  | .repeatable => return level.add o []
  | .flag =>
    if level.has o then throw .repeatedOption
    return level.add o []
  | .single kind =>
    if raw.isEmpty then throw .missingValue
    if level.has o then throw .repeatedOption
    return level.add o (← raw.mapM kind.read)
  | .several kind =>
    if raw.isEmpty then throw .missingValue
    return level.add o (← raw.mapM kind.read)

/-- Settles the last arguments. -/
def settle (level : Level) : Except Refusal Level := do
  match level.pending with
  | none => return level
  | some ⟨some o, raw⟩ => record { level with pending := none } o raw
  | some ⟨none, raw⟩ =>
    return { level with pending := none, extra := level.extra ++ (← raw.mapM readText) }

/-- Takes in an option and the value that is attached to it. -/
def take (level : Level) (o : OptionName) (attached : Option Bytes) : Except Refusal Level := do
  if o.usage.takesValues then
    let level ← level.settle
    match attached with
    | some raw => level.record o [raw]
    | none => return { level with pending := some ⟨some o, []⟩ }
  else if attached.isSome then throw .unwantedValue
  else (← level.settle).record o []

/-- The byte between an option and its value. -/
def equals : UInt8 := 0x3D

/-- Takes in what follows two hyphens. -/
def takeLong (command : Command) (level : Level) (raw : Bytes) : Except Refusal Level :=
  let attached := match raw.dropWhile (· ≠ equals) with
    | _ :: value => some value
    | [] => none
  match command.long? (raw.takeWhile (· ≠ equals)) with
  | some o => level.take o attached
  | none => .error .unknownArgument

/-- Takes in what follows one hyphen: letters of flags, then perhaps that of an option with its
value. -/
def takeLetters (command : Command) : Level → Bytes → Except Refusal Level
  | level, [] => .ok level
  | level, b :: l =>
    match command.letter? b with
    | none => .error .unknownArgument
    | some o =>
      if o.usage.takesValues then
        -- what is left of the argument is the value, with or without an equals sign
        level.take o (match l with
          | [] => none
          | c :: value => some (if c = equals then value else l))
      else
        match level.take o none with
        | .ok level => takeLetters command level l
        | .error e => .error e

/-- Takes in an argument that belongs to no option. -/
def takeExtra (command : Command) (level : Level) (raw : Bytes) : Except Refusal Level := do
  if command.takesExtra then
    match level.pending with
    | some ⟨none, values⟩ => return { level with pending := some ⟨none, values ++ [raw]⟩ }
    | _ =>
      let settled ← level.settle
      return { settled with pending := some ⟨none, [raw]⟩ }
  else if command.hasSubcommands then
    -- behind two hyphens the name of a command is only an argument that was not expected
    if level.optionsEnded && (raw == Command.helpName || (command.subcommand? raw).isSome) then
      throw .unknownArgument
    else throw .unknownCommand
  else throw .unknownArgument

/-- The byte in front of options. -/
def hyphen : UInt8 := 0x2D

/-- Takes in an argument that is no command. -/
def takeArgument (command : Command) (level : Level) (raw : Bytes) : Except Refusal Level :=
  if level.optionsEnded then level.takeExtra command raw
  else
    match raw with
    | a :: b :: l =>
      if a = hyphen then
        if b = hyphen then
          if l.isEmpty then .ok { level with optionsEnded := true } else level.takeLong command l
        else level.takeLetters command (b :: l)
      else takeValue
    | _ => takeValue
where
  /-- The argument is a value of the last option, if that can have one more. -/
  takeValue : Except Refusal Level :=
    match level.pending with
    | some p =>
      if p.isOpen then .ok { level with pending := some { p with values := p.values ++ [raw] } }
      else level.takeExtra command raw
    | none => level.takeExtra command raw

/-- Whether the next argument may be a command: it is no value and options have not ended. -/
def mayNameCommand (level : Level) : Bool :=
  !level.optionsEnded && !level.pending.any Pending.isOpen

/-! ## What options say -/

/-- The text of an option. -/
def text (level : Level) (o : OptionName) : Except Refusal String :=
  match level.values o with
  | [.text s] => .ok s
  | _ => .error .missingOption

/-- The path of an option, if it is given. -/
def path? (level : Level) (o : OptionName) : Option Path :=
  match level.values o with
  | [.path p] => some p
  | _ => none

/-- The path of an option. -/
def path (level : Level) (o : OptionName) : Except Refusal Path :=
  match level.path? o with
  | some p => .ok p
  | none => .error .missingOption

/-- All paths of an option, at least one. -/
def paths (level : Level) (o : OptionName) : Except Refusal (List Path) :=
  let found := (level.values o).filterMap fun
    | .path p => some p
    | _ => none
  if found.isEmpty then .error .missingOption else .ok found

/-- The number of an option; another one if it is not given. -/
def integerOr (level : Level) (o : OptionName) (other : Int) : Int :=
  match level.values o with
  | [.integer n] => n
  | _ => other

end Level

/-! ## Invocations -/

/-- What is asked for when a model is protected from the command line. -/
structure ProtectArguments where
  /-- The files of the model, in order. -/
  inputs : List Path
  /-- The name of the model. -/
  name : String
  /-- The description of the model. -/
  description : String
  /-- The version of the model. -/
  modelVersion : String
  /-- Where the protected model goes. -/
  protectedModel : Path
  /-- Where the master license goes. -/
  masterLicense : Path
  /-- The keystore with the identity key, unless the settings name it. -/
  keystore : Option Path := none
  /-- The GUID of the license. -/
  licenseGuid : String
  /-- Whether the last byte of each file is kept whatever the settings say. -/
  keepTrailingByte : Bool := false
  /-- Arguments without a meaning. -/
  extra : List String := []
deriving DecidableEq

/-- What is asked for when a keystore is made from the command line. -/
structure GenerateArguments where
  /-- The subject of the certificate. -/
  subject : String
  /-- For how many days the certificate is valid. -/
  days : Int
  /-- Where the keystore goes. -/
  out : Path
  /-- Whether an existing file is replaced. -/
  force : Bool := false
deriving DecidableEq

/-- What the program is asked to do. -/
inductive Action where
  /-- Protect a model. -/
  | protect (arguments : ProtectArguments)
  /-- Make a keystore. -/
  | generateKeystore (arguments : GenerateArguments)
deriving DecidableEq

/-- What the arguments of the program say. -/
structure Invocation where
  /-- The file with the settings. -/
  config : Option Path := none
  /-- The directory that relative outputs are put into, in place of the one in the settings. -/
  outputDirectory : Option Path := none
  /-- What is done. -/
  action : Action
deriving DecidableEq

/-- For how many days a certificate is valid if nothing is said. -/
def usualDays : Int := 365

/-- What the arguments of a command say when no other command follows. -/
def Level.action (level : Level) : Command → Except Refusal Action
  | .program => .error (if level.given.isEmpty then .nothing else .missingCommand)
  | .keystore => .error (if level.given.isEmpty then .nothing else .missingCommand)
  | .protect => do
    return .protect {
      inputs := ← level.paths .input
      name := ← level.text .name
      description := ← level.text .description
      modelVersion := ← level.text .modelVersion
      protectedModel := ← level.path .protectedModel
      masterLicense := ← level.path .masterLicense
      keystore := level.path? .keystore
      licenseGuid := ← level.text .licenseGuid
      keepTrailingByte := level.has .keepTrailingByte
      extra := level.extra }
  | .generate => do
    return .generateKeystore {
      subject := ← level.text .subject
      days := level.integerOr .days usualDays
      out := ← level.path .out
      force := level.has .force }

/-- The invocation of a command with the common options of a command around it. The inner command
says the last word. -/
def Level.around (level : Level) (inner : Invocation) : Invocation :=
  { inner with
    config := inner.config <|> level.path? .config
    outputDirectory := inner.outputDirectory <|> level.path? .outputDirectory }

/-- The answer to a request to explain a command. -/
def explain : Command → List Bytes → Refusal
  | _, [] => .helpWanted
  | command, name :: names =>
    match command.subcommand? name with
    | some sub => explain sub names
    | none =>
      if command.hasSubcommands && name == Command.helpName && names.isEmpty then .helpWanted
      else .unknownCommand

/-- Reads the arguments of a command from the level that has been reached. -/
def invocationFrom (command : Command) (level : Level) : List Bytes → Except Refusal Invocation
  | [] => do
    let level ← level.settle
    return level.around { action := ← level.action command }
  | raw :: l =>
    if level.mayNameCommand && command.hasSubcommands && raw == Command.helpName then
      .error (explain command l)
    else
      match if level.mayNameCommand then command.subcommand? raw else none with
      | some sub => do
        -- the arguments behind the name are read first, so their refusal comes first
        let inner ← invocationFrom sub {} l
        return (← level.settle).around inner
      | none =>
        match level.takeArgument command raw with
        | .ok level => invocationFrom command level l
        | .error e => .error e

/-- What the arguments say. The first one is the name of the program. -/
def Invocation.ofArguments (l : List Bytes) : Except Refusal Invocation :=
  invocationFrom .program {} (l.drop 1)

end CommandLine

end ModelProtection
