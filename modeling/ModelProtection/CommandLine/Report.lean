/-
Commands.

A command is run under settings and ends with a report: an exit code, what is
written to the two outputs, and for an error outside the workflow of protection
the text of the error with its causes.
-/
import ModelProtection.CommandLine.Invocation
import ModelProtection.Protect.Run
import ModelProtection.Crypto.Software
import ModelProtection.Settings

set_option autoImplicit false

namespace ModelProtection

namespace CommandLine

/-! ## Errors -/

/-- Why a command is not carried out. -/
inductive CommandError where
  /-- The settings cannot be had. -/
  | settings (error : Settings.Error)
  /-- No keystore is named. -/
  | noKeystore
  /-- Something stands where the keystore would go. -/
  | keystoreExists (path : Path)
  /-- The identity key cannot be made. -/
  | keyGeneration (error : CryptoError)
  /-- The keystore cannot be written. -/
  | keystoreUnwritten (path : Path) (error : ProtectError)
deriving DecidableEq

/-- The wording of an error of the workflow and what caused it. -/
def causes : ProtectError → String
  | .fileOpen path error => (ProtectError.fileOpen path error).message ++ ": " ++ error.message
  | e => e.message

/-- The wording of an error and what caused it. -/
def CommandError.message : CommandError → String
  | .settings error => error.message
  | .noKeystore =>
    "no keystore given: pass --keystore or set \x60keystore\x60 in the config file"
  | .keystoreExists path => s!"keystore already exists: {path} (use --force to overwrite)"
  | .keyGeneration error => "failed to generate identity key: " ++ error.message
  | .keystoreUnwritten path error => s!"failed to write keystore: {path}: " ++ causes error

/-! ## Making a keystore -/

section Generate

variable {m : Type → Type} [Monad m] [Host m]

/-- Makes a keystore and gives the path at which it was written. -/
def GenerateArguments.run (a : GenerateArguments) (settings : Settings) :
    m (Except CommandError Path) := do
  let path := settings.outputPath a.out
  if (← Host.fileExists path) && !a.force then return .error (.keystoreExists path)
  match ← Keystore.generate a.subject a.days with
  | .error e => return .error (.keyGeneration e)
  | .ok k =>
    match ← k.saveAt path with
    | .error e => return .error (.keystoreUnwritten path e)
    | .ok () => return .ok path

end Generate

/-! ## Protecting a model -/

/-- The request that arguments and settings make. -/
def ProtectArguments.request (a : ProtectArguments) (settings : Settings) :
    Except CommandError ProtectRequest :=
  match a.keystore <|> settings.keystore with
  | none => .error .noKeystore
  | some keystore =>
    .ok {
      inputs := a.inputs
      metadata := { name := a.name, description := a.description, version := a.modelVersion }
      keystore
      protectedModel := a.protectedModel
      masterLicense := a.masterLicense
      outputDirectory := settings.outputDirectory
      licenseGuid := a.licenseGuid
      trailingByte := if a.keepTrailingByte then .keep else settings.trailingByte }

/-! ## Reports -/

/-- What a command leaves behind for whoever called it. -/
structure Report where
  /-- The exit code. -/
  exitCode : Nat
  /-- What is written to the output. -/
  output : String := ""
  /-- What is written to the output for errors. -/
  errors : String := ""
  /-- Why the command was not carried out. -/
  failure : Option String := none
deriving DecidableEq

/-- Lines of text, each with its end. -/
def unlines (l : List String) : String := String.join (l.map (· ++ "\n"))

namespace Report

/-- The report of a command that was not carried out. -/
def ofError (e : CommandError) : Report := { exitCode := 1, failure := some e.message }

/-- The report of a keystore that was made. -/
def ofKeystore (a : GenerateArguments) (path : Path) : Report where
  exitCode := 0
  output := unlines [
    s!"Keystore written to {path}",
    s!"  subject:  {a.subject}",
    s!"  validity: {a.days} day(s)"]

/-- The report of a model that was protected. -/
def ofOutcome (o : ProtectOutcome) : Report where
  exitCode := 0
  output := unlines [
    s!"Protected {o.artifactCount} model file(s)",
    s!"  model GUID:      {o.modelGuid}",
    s!"  model hash:      {o.modelHash}",
    s!"  license GUID:    {o.licenseGuid}",
    s!"  protected model: {o.protectedModel}",
    s!"  master license:  {o.masterLicense}"]

/-- The report of a workflow that failed. -/
def ofStageError (e : StageError) : Report where
  exitCode := 1
  errors := unlines [s!"error: {e.stage.name} failed (code {e.error.code}): {e.error.message}"]

end Report

section Run

variable {m : Type → Type} [Monad m] [Host m]

/-- Does what is asked for, under settings. -/
def Action.run (settings : Settings) : Action → m Report
  | .generateKeystore a => do
    match ← a.run settings with
    | .ok path => return .ofKeystore a path
    | .error e => return .ofError e
  | .protect a => do
    match a.request settings with
    | .error e => return .ofError e
    | .ok request =>
      let (result, _) ← (ModelProtection.protect request : SoftwareT m _).run {}
      match result with
      | .ok outcome => return .ofOutcome outcome
      | .error e => return .ofStageError e

/-- Loads the settings and does what is asked for. -/
def Invocation.run (i : Invocation) : m Report := do
  match ← Settings.load i.config with
  | .error e => return .ofError (.settings e)
  | .ok settings =>
    i.action.run { settings with outputDirectory := i.outputDirectory <|> settings.outputDirectory }

end Run

end CommandLine

end ModelProtection
