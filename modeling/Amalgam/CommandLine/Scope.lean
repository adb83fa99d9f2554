import Amalgam.CommandLine.Run

namespace Amalgam.CommandLine

/-- The options of the arguments, if they ask for a run. -/
def optionsOf (arguments : List String) : Options :=
  match Arguments.parse arguments with
  | .run options _ => options
  | _ => {}

/-- The paths where settings may be. -/
def settingsPaths (request : Request) : List Path :=
  request.settingsFile.toList ++ Settings.candidates request.home request.start

/-- The settings that the files give, or else the defaults. -/
def settingsOf (request : Request) (files : FileSystem) : Settings :=
  match (Settings.load files request.home request.start request.settingsFile).2 with
  | .ok loaded => loaded.settings
  | .error _ => {}

/-- The paths of the sources and of the artifacts, if a base directory is known. -/
def plannedPaths (request : Request) (settings : Settings) : List Path :=
  match resolveBase settings request.environment request.base with
  | .error _ => []
  | .ok base =>
    (Plan.ofSettings settings base request.outputDir).artifacts.flatMap fun artifact =>
      artifact.sources ++ [artifact.output]

end Amalgam.CommandLine
