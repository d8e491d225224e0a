/-
Commands and their options.

The program has two commands: one protects a model, the other, a command of the
command for keystores, makes a keystore. This module says which options each
command has, how they are spelled and what they take.
-/
import ModelProtection.Host.Path

set_option autoImplicit false

namespace ModelProtection

namespace CommandLine

/-- A command. -/
inductive Command where
  /-- The program itself. -/
  | program
  /-- Protects a model. -/
  | protect
  /-- Manages keystores. -/
  | keystore
  /-- Makes a keystore. -/
  | generate
deriving DecidableEq, Repr

/-- An option. -/
inductive OptionName where
  /-- Say more about what is done. -/
  | verbose
  /-- The file with the settings. -/
  | config
  /-- The directory that relative outputs are put into. -/
  | outputDirectory
  /-- Say how the command is used. -/
  | help
  /-- Say which program this is. -/
  | version
  /-- The files of the model. -/
  | input
  /-- The name of the model. -/
  | name
  /-- The description of the model. -/
  | description
  /-- The version of the model. -/
  | modelVersion
  /-- Where the protected model goes. -/
  | protectedModel
  /-- Where the master license goes. -/
  | masterLicense
  /-- The keystore with the identity key. -/
  | keystore
  /-- The GUID of the license. -/
  | licenseGuid
  /-- Keep the last byte of each file. -/
  | keepTrailingByte
  /-- The subject of the certificate. -/
  | subject
  /-- For how many days the certificate is valid. -/
  | days
  /-- Where the keystore goes. -/
  | out
  /-- Write the keystore over an existing one. -/
  | force
deriving DecidableEq, Repr

/-- What a value must be. -/
inductive ValueKind where
  /-- Any text. -/
  | text
  /-- A path that is not empty. -/
  | path
  /-- A whole number of 64 bits. -/
  | integer
deriving DecidableEq, Repr

/-- How an option is used. -/
inductive Usage where
  /-- The command says how it is used and does nothing else. -/
  | help
  /-- The command says which program it is and does nothing else. -/
  | version
  /-- A flag that may be given again. -/
  | repeatable
  /-- A flag that is given once. -/
  | flag
  /-- An option with one value that is given once. -/
  | single (kind : ValueKind)
  /-- An option with values up to the next option that may be given again. -/
  | several (kind : ValueKind)
deriving DecidableEq, Repr

/-- Whether an option takes values. -/
def Usage.takesValues : Usage → Bool
  | single _ => true
  | several _ => true
  | _ => false

namespace OptionName

/-- The spelling of an option behind two hyphens. -/
def long : OptionName → String
  | verbose => "verbose"
  | config => "config"
  | outputDirectory => "output-dir"
  | help => "help"
  | version => "version"
  | input => "input"
  | name => "name"
  | description => "description"
  | modelVersion => "model-version"
  | protectedModel => "protected-model"
  | masterLicense => "master-license"
  | keystore => "keystore"
  | licenseGuid => "license-guid"
  | keepTrailingByte => "keep-trailing-byte"
  | subject => "subject"
  | days => "days"
  | out => "out"
  | force => "force"

/-- The letter of an option behind one hyphen. -/
def letter? : OptionName → Option Char
  | verbose => some 'v'
  | help => some 'h'
  | version => some 'V'
  | input => some 'i'
  | name => some 'n'
  | description => some 'd'
  | protectedModel => some 'p'
  | masterLicense => some 'm'
  | keystore => some 'k'
  | licenseGuid => some 'g'
  | _ => none

/-- How an option is used. -/
def usage : OptionName → Usage
  | verbose => .repeatable
  | config => .single .path
  | outputDirectory => .single .path
  | help => .help
  | version => .version
  | input => .several .path
  | name => .single .text
  | description => .single .text
  | modelVersion => .single .text
  | protectedModel => .single .path
  | masterLicense => .single .path
  | keystore => .single .path
  | licenseGuid => .single .text
  | keepTrailingByte => .flag
  | subject => .single .text
  | days => .single .integer
  | out => .single .path
  | force => .flag

end OptionName

namespace Command

/-- The options that every command has. -/
def commonOptions : List OptionName := [.verbose, .config, .outputDirectory, .help]

/-- The options of a command. -/
def options : Command → List OptionName
  | program => commonOptions ++ [.version]
  | protect => commonOptions ++ [.input, .name, .description, .modelVersion, .protectedModel,
      .masterLicense, .keystore, .licenseGuid, .keepTrailingByte]
  | keystore => commonOptions
  | generate => commonOptions ++ [.subject, .days, .out, .force]

/-- The commands of a command. -/
def subcommands : Command → List (String × Command)
  | program => [("protect", protect), ("keystore", keystore)]
  | keystore => [("generate", generate)]
  | protect => []
  | generate => []

/-- Whether a command is nothing without one of its commands. Such a command also has a command that
explains the others. -/
def hasSubcommands (c : Command) : Bool := !c.subcommands.isEmpty

/-- The name of the command that explains the others. -/
def helpName : Bytes := textBytes "help"

/-- The command with a name. -/
def subcommand? (c : Command) (name : Bytes) : Option Command :=
  (c.subcommands.find? (textBytes ·.1 == name)).map (·.2)

/-- Whether a command takes arguments that belong to no option. -/
def takesExtra (c : Command) : Bool := c == protect

/-- The option with a spelling. -/
def long? (c : Command) (name : Bytes) : Option OptionName :=
  c.options.find? (textBytes ·.long == name)

/-- The option with a letter. -/
def letter? (c : Command) (b : UInt8) : Option OptionName :=
  c.options.find? fun o => o.letter?.any (UInt8.ofNat ·.toNat == b)

end Command

end CommandLine

end ModelProtection
