import Amalgam.Path

namespace Amalgam.CommandLine

inductive Command where
  /-- make both artifacts -/
  | generate
  /-- show the settings and where they come from -/
  | showSettings
  /-- check the settings without making anything -/
  | checkSettings
  deriving Repr, DecidableEq

structure Options where
  base : Option Path := none
  outputDir : Option Path := none
  settingsFile : Option Path := none
  /-- write a template of a settings file -/
  init : Bool := false
  /-- let the template replace a file -/
  force : Bool := false
  verbosity : Nat := 0
  deriving Repr, DecidableEq

inductive HelpTopic where
  | program
  | settings
  | showSettings
  | checkSettings
  | help
  | settingsHelp
  deriving Repr, DecidableEq

inductive Arguments where
  | run (options : Options) (command : Command)
  | help (topic : HelpTopic)
  | version
  | misuse
  deriving Repr, DecidableEq

namespace Arguments

/-- The options that take a value. -/
inductive Valued where
  | base
  | outputDir
  | settingsFile
  deriving Repr, DecidableEq

def Valued.ofName? : String → Option Valued
  | "--base" => some .base
  | "--output-dir" => some .outputDir
  | "--config" => some .settingsFile
  | _ => none

/-- Sets an option, which must not have a value yet. The value must not be empty. -/
def setValue? (options : Options) (option : Valued) (value : String) : Option Options :=
  let path := Path.ofString value
  if value.isEmpty then none
  else match option with
    | .base => if options.base.isNone then some { options with base := path } else none
    | .outputDir =>
      if options.outputDir.isNone then some { options with outputDir := path } else none
    | .settingsFile =>
      if options.settingsFile.isNone then some { options with settingsFile := path } else none

/-- An argument that starts with a hyphen is not the value of the option before it, unless it is
the hyphen alone. -/
def isValue (argument : String) : Bool :=
  !argument.startsWith "-" || argument == "-"

/-- The name and the value of an option that are written with an equals sign between them. -/
def attached? (argument : String) : Option (String × String) :=
  let chars := argument.toList
  match chars.dropWhile (· != '=') with
  | [] => none
  | _ :: value => some (String.ofList (chars.takeWhile (· != '=')), String.ofList value)

/-- Short options that stand behind one hyphen. -/
def short (options : Options) : List Char → Except Arguments Options
  | [] => .ok options
  | 'v' :: rest => short { options with verbosity := options.verbosity + 1 } rest
  | 'h' :: _ => .error (.help .program)
  | 'V' :: _ => .error .version
  | _ => .error .misuse

/-- The argument for force needs the one for the template. -/
def finish (options : Options) (command : Command) : Arguments :=
  if options.force && !options.init then .misuse else .run options command

/-- What is asked for help about. -/
def helpTopic : List String → Arguments
  | [] => .help .program
  | ["config"] => .help .settings
  | ["config", "show"] => .help .showSettings
  | ["config", "validate"] => .help .checkSettings
  | ["config", "help"] => .help .settingsHelp
  | ["help"] => .help .help
  | _ => .misuse

/-- Letters behind the one for help are not looked at. -/
def asksForHelp (argument : String) : Bool :=
  argument == "--help" || argument.startsWith "-h"

/-- The arguments behind a last command: none, or a request for help with it. -/
def lastCommand (options : Options) (command : Command) (topic : HelpTopic) :
    List String → Arguments
  | [] => finish options command
  | ["--"] => finish options command
  | argument :: _ => if asksForHelp argument then .help topic else .misuse

/-- The arguments behind the command for settings, which needs a command of its own. -/
def settingsCommand (options : Options) : List String → Arguments
  | "show" :: rest => lastCommand options .showSettings .showSettings rest
  | "validate" :: rest => lastCommand options .checkSettings .checkSettings rest
  | "help" :: rest => helpTopic ("config" :: rest)
  | argument :: _ => if asksForHelp argument then .help .settings else .misuse
  | [] => .misuse

/-- Reads on, given the options so far. The first argument that is misused ends the reading, and so does
a request for help or for the version. -/
def parseFrom (options : Options) : List String → Arguments
  | [] => finish options .generate
  | "--" :: rest => if rest.isEmpty then finish options .generate else .misuse
  | "config" :: rest => settingsCommand options rest
  | "help" :: rest => helpTopic rest
  | "--help" :: _ => .help .program
  | "--version" :: _ => .version
  | "--verbose" :: rest => parseFrom { options with verbosity := options.verbosity + 1 } rest
  | "--init" :: rest => if options.init then .misuse else parseFrom { options with init := true } rest
  | "--force" :: rest =>
    if options.force then .misuse else parseFrom { options with force := true } rest
  | argument :: rest =>
    match Valued.ofName? argument, rest with
    | some option, value :: rest =>
      if isValue value then
        match setValue? options option value with
        | some options => parseFrom options rest
        | none => .misuse
      else .misuse
    | some _, [] => .misuse
    | none, rest =>
      match argument.toList with
      | '-' :: '-' :: _ =>
        match attached? argument with
        | none => .misuse
        | some (name, value) =>
          match (Valued.ofName? name).bind fun option => setValue? options option value with
          | some options => parseFrom options rest
          | none => .misuse
      | '-' :: c :: letters =>
        match short options (c :: letters) with
        | .ok options => parseFrom options rest
        | .error result => result
      | _ => .misuse

def parse (arguments : List String) : Arguments :=
  parseFrom {} arguments

end Arguments

end Amalgam.CommandLine
