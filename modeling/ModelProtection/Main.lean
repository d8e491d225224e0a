/-
The program.

The system is the host: its files, its random bytes and its clock. The program
reads its arguments, does what they say, and prints the report.
-/
import ModelProtection.CommandLine.Report
import Std.Time.DateTime.Timestamp

set_option autoImplicit false

namespace ModelProtection

/-- The cause of an error that the system reports. -/
def FileError.ofSystem : IO.Error → FileError
  | .noFileOrDirectory .. => .notFound
  | .noSuchThing .. => .notFound
  | .inappropriateType _ 20 _ => .notDirectory
  | .inappropriateType .. => .isDirectory
  | .invalidArgument _ 36 _ => .nameTooLong
  | e => .reported (toString e)

/-- The bytes of an array. -/
def bytesOf (a : ByteArray) : Bytes := a.data.toList

/-- The system, as a host. -/
instance : Host IO where
  readFile p := do
    try
      return .ok (bytesOf (← IO.FS.readBinFile p.shown))
    catch e => return .error (.ofSystem e)
  writeFile p content := do
    try
      IO.FS.writeBinFile p.shown ⟨content.toArray⟩
      return .ok ()
    catch e => return .error (.ofSystem e)
  fileExists p := do
    try
      let _ ← IO.FS.realPath p.shown
      return true
    catch _ => return false
  randomBytes n := do
    let drawn ← IO.getRandomBytes n.toUSize
    return .ofFn n fun i => drawn.data.getD i 0
  now := do
    let t ← Std.Time.Timestamp.now
    return (Instant.of? t.val.second.val t.val.nano.val.toNat).getD default

/-- The line that explains the program. -/
def usageLine : String :=
  "usage: modelseal [--config FILE] [--output-dir DIR] (protect | keystore generate) OPTIONS"

/-- What is printed when the arguments do not say what is to be done. -/
def CommandLine.Refusal.line : CommandLine.Refusal → String
  | .missingOption => "error: a required option is missing"
  | .unknownArgument => "error: unexpected argument"
  | .repeatedOption => "error: an option is given more than once"
  | .missingValue => "error: an option has no value"
  | .malformedValue => "error: a value is not a number"
  | .valueNotText => "error: a value is not text"
  | .unwantedValue => "error: a flag has a value"
  | .unknownCommand => "error: unrecognized command"
  | .missingCommand => "error: a command is required"
  | .nothing => usageLine
  | .helpWanted => usageLine
  | .versionWanted => "modelseal 0.1.0"

end ModelProtection

open ModelProtection in
/-- Reads the arguments, does what they say, and prints the report. -/
def main (arguments : List String) : IO UInt32 := do
  match CommandLine.Invocation.ofArguments (textBytes "modelseal" :: arguments.map textBytes) with
  | .error refusal =>
    if refusal.exitCode = 0 then IO.println refusal.line else IO.eprintln refusal.line
    return UInt32.ofNat refusal.exitCode
  | .ok invocation =>
    let report ← invocation.run
    IO.print report.output
    IO.eprint report.errors
    match report.failure with
    | some failure => IO.eprintln ("error: " ++ failure)
    | none => pure ()
    return UInt32.ofNat report.exitCode
