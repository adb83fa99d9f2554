import Amalgam.Assembly
import Amalgam.Plan

namespace Amalgam

/-- Turns a pattern text into a test of lines, if it is well-formed. -/
abbrev PatternCompiler := String → Option (Bytes → Bool)

structure Rules where
  header : Filter
  implementation : Replacement

namespace Rules

def headerFilter (compile : PatternCompiler) (settings : HeaderSettings) : Except Error Filter :=
  match Filter.compilePatterns compile settings.dropPatterns with
  | .error pattern => .error (.invalidPattern pattern)
  | .ok patterns =>
    .ok {
      includePrefixes := settings.dropIncludePrefixes.map Bytes.ofString
      markers := settings.dropMarkers.map Bytes.ofString
      patterns }

/-- The rule for implementation files, whose artifact includes the header artifact by its name. -/
def replacement (compile : PatternCompiler) (settings : ImplementationSettings)
    (headerArtifact : String) : Except Error Replacement :=
  match Filter.compilePatterns compile settings.dropPatterns with
  | .error pattern => .error (.invalidPattern pattern)
  | .ok patterns =>
    .ok {
      filter := {
        includePrefixes := settings.dropIncludePrefixes.map Bytes.ofString
        patterns }
      headerArtifact
      systemIncludes := settings.systemIncludes
      throwPattern := Bytes.ofString settings.throwPattern
      diagnostic := Bytes.ofString settings.diagnostic
      raise := Bytes.ofString settings.raise
      terminator := settings.terminator
      offset := settings.terminatorOffset }

/-- The patterns of the header settings are compiled first. -/
def ofSettings (compile : PatternCompiler) (settings : Settings) : Except Error Rules :=
  match headerFilter compile settings.header with
  | .error error => .error error
  | .ok header =>
    match replacement compile settings.implementation settings.header.output with
    | .error error => .error error
    | .ok implementation => .ok { header, implementation }

/-- Assembles the sources with the rule for their role. -/
def assemble (rules : Rules) (role : Role) (read : Path → Except IoError Source)
    (sources : List Path) (artifact : Path) (room : Option Nat := none) : Transcript :=
  match role with
  | .header => Amalgam.assemble rules.header.rule read sources artifact room
  | .implementation => Amalgam.assemble rules.implementation.rule read sources artifact room

/-- What making an artifact leaves behind. -/
structure Made where
  files : FileSystem
  events : List Event
  result : Except Error Report

/-- The source at a path, while the artifact at some location is being made. -/
def readBeside (files : FileSystem) (artifact : Location) (path : Path) : Except IoError Source :=
  match files.locate path with
  | .error cause => .error cause
  | .ok location =>
    if location = artifact then .ok .artifact else (files.read path).map .file

/-- Makes an artifact. Its file is emptied before the first source is read, and what was written
before a failure stays in it. -/
def make (rules : Rules) (files : FileSystem) (artifact : ArtifactPlan) : Made :=
  match files.target artifact.output with
  | .error cause => ⟨files, [], .error (.writeArtifact artifact.output cause)⟩
  | .ok location =>
    let emptied := files.set location (.file [])
    let transcript := rules.assemble artifact.role (readBeside emptied location) artifact.sources artifact.output
    let files := emptied.set location (.file transcript.written)
    match transcript.result with
    | .error error => ⟨files, transcript.events, .error error⟩
    | .ok report =>
      ⟨files, transcript.events ++ [.wroteArtifact artifact.output report.files report.linesRead],
        .ok report⟩

end Rules

end Amalgam
