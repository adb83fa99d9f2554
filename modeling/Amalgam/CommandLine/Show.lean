import Amalgam.Event
import Amalgam.Settings.Discovery

namespace Amalgam.CommandLine

def setting (name value : String) : String :=
  name ++ ": " ++ value

def listed (items : List String) : String :=
  String.intercalate ", " items

def headerLines (header : HeaderSettings) : List String :=
  [ "[header]",
    setting "  subdir" header.subdir.toString,
    setting "  files" (listed header.files),
    setting "  output" header.output,
    setting "  drop_include_prefixes" (listed header.dropIncludePrefixes),
    setting "  drop_markers" (listed header.dropMarkers)] ++
  header.dropPatterns.map (setting "  drop_pattern")

def implementationLines (implementation : ImplementationSettings) : List String :=
  [ "[implementation]",
    setting "  subdir" implementation.subdir.toString,
    setting "  files" (listed implementation.files),
    setting "  output" implementation.output,
    setting "  drop_include_prefixes" (listed implementation.dropIncludePrefixes)] ++
  implementation.dropPatterns.map (setting "  drop_pattern") ++
  [ setting "  system_includes" (listed implementation.systemIncludes),
    setting "  throw_pattern" implementation.throwPattern,
    setting "  diagnostic" implementation.diagnostic,
    setting "  raise" implementation.raise,
    setting "  terminator" implementation.terminator.name,
    setting "  terminator_offset" (toString implementation.terminatorOffset)]

/-- Settings with their source. A pattern has a line of its own, other lists have one line each. -/
def settingsLines (loaded : Settings.Loaded) : List String :=
  let settings := loaded.settings
  [ "# Source: " ++ Event.describeSource loaded.source,
    setting "base-env-var" settings.baseVariable,
    setting "formats-dir" settings.formatsDir.toString,
    setting "output-dir" settings.outputDir.toString,
    ""] ++
  headerLines settings.header ++ [""] ++ implementationLines settings.implementation ++ [""]

/-- The settings file in the home directory, and whether there is one. Nothing is said about it without
a home directory. -/
def userFileLines (files : FileSystem) (home : Option Path) : List String :=
  match Settings.userFile home with
  | .error _ => []
  | .ok path =>
    [ "User config path: " ++ path.toString,
      if files.exists? path then "  (exists)" else "  (not found)"]

end Amalgam.CommandLine
