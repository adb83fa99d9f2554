import Amalgam.CommandLine.Help
import Amalgam.CommandLine.Show
import Amalgam.Generation
import Amalgam.Settings.Template

namespace Amalgam.CommandLine

/-- The program after it has ended. -/
structure Ended where
  files : FileSystem
  /-- the lines of the standard output -/
  output : List String := []
  /-- the lines of the standard error -/
  errors : List String := []
  code : Nat := 0

/-- The variable that overrides what is logged. -/
def logVariable : String := "RUST_LOG"

/-- The least level of the events that are logged, or nothing if none are. An override names a
level, or a level for this program. -/
def logThreshold (verbosity : Nat) (override : Option String) : Option Level :=
  let byVerbosity :=
    match verbosity with
    | 0 => .warn
    | 1 => .info
    | _ => .debug
  match override with
  | some "off" | some "standalone_gen=off" => none
  | some "error" | some "standalone_gen=error" | some "" => some .error
  | some "warn" | some "standalone_gen=warn" => some .warn
  | some "info" | some "standalone_gen=info" => some .info
  | some "debug" | some "standalone_gen=debug" => some .debug
  | some "trace" | some "standalone_gen=trace" => some .debug
  | _ => some byVerbosity

/-- The lines of the log. -/
def logLines (threshold : Option Level) (events : List Event) : List String :=
  match threshold with
  | none => []
  | some least => (events.filter fun event => least.rank ≤ event.level.rank).map Event.render

/-- A message with its lines indented, the first one differently. -/
def indented (first others message : String) : List String :=
  match message.splitOn "\n" with
  | [] => []
  | line :: lines => (first ++ line) :: lines.map (others ++ ·)

/-- A cause in a numbered chain. -/
def numbered (index : Nat) (message : String) : List String :=
  indented ("    " ++ toString index ++ ": ") "       " message

/-- What failed, and the chain of causes. The defect of a malformed text is in the chain, but its
description is left to whoever reads the text. -/
def failureLines (context : String) (error : Error) : List String :=
  let causes := match error.cause with
    | .none => indented "    " "    " error.message
    | .io cause => numbered 0 error.message ++ numbered 1 cause.message
    | .malformed => numbered 0 error.message
  ["error: " ++ context, "", "Caused by:"] ++ causes

def stageContext : Stage → String
  | .loadSettings => "Failed to load configuration"
  | .resolveBase => "Failed to resolve base directory"
  | .compileRules => "Failed to compile rules"
  | .create shown => "Failed to create " ++ shown.toString

/-- Writes the template of a settings file into the working directory. It replaces a file only if
that is forced. -/
def writeTemplate (files : FileSystem) (force : Bool) : Ended :=
  let path := Path.ofString Settings.fileName
  if files.exists? path && !force then
    { files
      errors := ["error: " ++ Settings.fileName ++ " already exists. Use --force to overwrite."]
      code := 1 }
  else match files.write path (Bytes.ofString Settings.template) with
    | .ok files => { files, output := ["Created " ++ Settings.fileName] }
    | .error cause =>
      { files
        errors := ["error: Failed to write " ++ Settings.fileName, "", "Caused by:",
          "    " ++ cause.message]
        code := 1 }

/-- What a run prints to the standard output. -/
def progressLines : Progress → List String
  | .creating shown => ["Creating " ++ shown.toString]
  | .created role _ report =>
    ["  " ++ toString report.files ++ " " ++ role.name ++ " files, " ++ toString report.linesRead ++
      " lines read, " ++ toString report.linesDropped ++ " dropped, " ++ toString report.triggers ++
      " throws rewritten"]
  | .log _ | .loaded _ => []

def progressEvents : Progress → List Event
  | .log event => [event]
  | .loaded source => [.usingSettings source]
  | .creating _ | .created .. => []

/-- Makes both artifacts. -/
def generate (compile : PatternCompiler) (threshold : Option Level) (request : Request)
    (files : FileSystem) : Ended :=
  let run := Generation.run compile request files
  let log := logLines threshold (run.progress.flatMap progressEvents)
  let output := run.progress.flatMap progressLines
  match run.failure with
  | none => { files := run.files, output, errors := log }
  | some failure =>
    { files := run.files
      output
      errors := log ++ failureLines (stageContext failure.stage) failure.error
      code := 1 }

/-- Shows the settings that a run would use. -/
def showSettings (threshold : Option Level) (request : Request) (files : FileSystem) : Ended :=
  let (events, result) := Settings.load files request.home request.start request.settingsFile
  let log := logLines threshold events
  match result with
  | .error error =>
    { files, errors := log ++ failureLines (stageContext .loadSettings) error, code := 1 }
  | .ok loaded =>
    { files, output := settingsLines loaded ++ userFileLines files request.home, errors := log }

/-- Checks the settings that a run would use, with their patterns. -/
def checkSettings (compile : PatternCompiler) (threshold : Option Level) (request : Request)
    (files : FileSystem) : Ended :=
  let (events, result) := Settings.load files request.home request.start request.settingsFile
  let log := logLines threshold events
  let refused (error : Error) : Ended :=
    { files, errors := log ++ ["Configuration error: " ++ error.message], code := 1 }
  match result with
  | .error error => refused error
  | .ok loaded =>
    match Rules.ofSettings compile loaded.settings with
    | .error error => refused error
    | .ok _ =>
      let verdict := match loaded.source with
        | some path => "Configuration is valid: " ++ path.toString
        | none => "No configuration file found; built-in defaults are valid."
      { files, output := [verdict], errors := log }

/-- The request that options make. The search for settings starts in the working directory. -/
def requestOf (environment : Environment) (account : Option Path) (options : Options) (files : FileSystem) :
    Request where
  environment
  home := environment.home account
  start := files.workingDirectory.toPath
  settingsFile := options.settingsFile
  base := options.base
  outputDir := options.outputDir

/-- The code for arguments that are misused. -/
def misuseCode : Nat := 2

/-- Runs the program for a user whose account may have a home directory. A request for a template comes
before any command. -/
def run (compile : PatternCompiler) (environment : Environment) (account : Option Path)
    (arguments : List String) (files : FileSystem) : Ended :=
  match Arguments.parse arguments with
  | .misuse =>
    { files
      errors := ["error: invalid arguments", "", "Usage: standalone-gen [OPTIONS] [COMMAND]"]
      code := misuseCode }
  | .help topic => { files, output := topic.lines }
  | .version => { files, output := [versionLine] }
  | .run options command =>
    if options.init then writeTemplate files options.force
    else
      let threshold := logThreshold options.verbosity (environment.value? logVariable)
      let request := requestOf environment account options files
      match command with
      | .generate => generate compile threshold request files
      | .showSettings => showSettings threshold request files
      | .checkSettings => checkSettings compile threshold request files

end Amalgam.CommandLine
