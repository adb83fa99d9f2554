import Amalgam.Draft
import Amalgam.Error
import Amalgam.Event
import Amalgam.Report

namespace Amalgam

/-- What is found at the path of a source. -/
inductive Source where
  | file (content : Bytes)
  /-- the artifact itself, which is read while it is written -/
  | artifact
  deriving Repr, DecidableEq

/-- One step of an assembly. The steps are listed in the order in which they happen, and a writer
carries them out until one fails. -/
inductive Step where
  | write (chunk : Bytes)
  | log (event : Event)
  /-- a source cannot be read, and nothing happens after that -/
  | unreadable (source : Path) (cause : IoError)
  /-- the artifact does not end, and nothing happens after that -/
  | overflow
  /-- all sources are in the artifact -/
  | finish (report : Report)
  deriving Repr, DecidableEq

/-- What is left of an assembly after it has been carried out. -/
structure Transcript where
  written : Bytes
  events : List Event
  result : Except Error Report

namespace Assembly

/-- Written behind the contribution of every file. -/
def separator : Bytes :=
  [Ascii.newline, Ascii.newline]

variable {State : Type}

/-- The steps for one source, given the counts before and after it. -/
def sourceSteps (emissions : List Emission) (source : Path) (before after : Report) : List Step :=
  emissions.map (fun emission => .write emission.text) ++ [
    .write separator,
    .log (.processedSource source (after.linesRead - before.linesRead)
      (after.linesDropped - before.linesDropped) (after.triggers - before.triggers))] ++
    if before.unterminated < after.unterminated then [.log (.raiseMissing source)] else []

/-- What becomes of the lines of a source, given what is written before it, latest first. -/
def reading (rule : Rule State) (written : List Bytes) : Source → Draft.Reading
  | .file content => ⟨rule.emissions content, true⟩
  | .artifact => (Draft.ofChunks written.reverse).read rule

/-- The steps for the sources that are left. What is written by then is `written`, latest first. -/
def stepsFrom (rule : Rule State) (read : Path → Except IoError Source) (written : List Bytes)
    (before : Report) : List Path → List Step
  | [] => [.finish before]
  | source :: sources =>
    match read source with
    | .error cause => [.unreadable source cause]
    | .ok found =>
      let reading := reading rule written found
      let texts := reading.emissions.map (·.text)
      if reading.finished then
        let after := before.recordFile (reading.emissions.map (·.outcome))
        let written := separator :: texts.reverse ++ written
        sourceSteps reading.emissions source before after ++ stepsFrom rule read written after sources
      else texts.map Step.write ++ [.overflow]

/-- The preamble comes first, even if no source can be read. -/
def steps (rule : Rule State) (read : Path → Except IoError Source) (sources : List Path) :
    List Step :=
  .write rule.preamble :: stepsFrom rule read [rule.preamble] {} sources

/-- Carries out steps with a writer that has room for so many more bytes, or for any number of
them. It fills its room before it fails. -/
def perform (artifact : Path) : Option Nat → List Step → Transcript
  | _, [] => ⟨[], [], .ok {}⟩
  | none, .write chunk :: rest =>
    let transcript := perform artifact none rest
    { transcript with written := chunk ++ transcript.written }
  | some room, .write chunk :: rest =>
    if chunk.length ≤ room then
      let transcript := perform artifact (some (room - chunk.length)) rest
      { transcript with written := chunk ++ transcript.written }
    else ⟨chunk.take room, [], .error (.writeArtifact artifact .storageFull)⟩
  | room, .log event :: rest =>
    let transcript := perform artifact room rest
    { transcript with events := event :: transcript.events }
  | _, .unreadable source cause :: _ => ⟨[], [], .error (.readSource source cause)⟩
  | _, .overflow :: _ => ⟨[], [], .error (.writeArtifact artifact .storageFull)⟩
  | _, .finish report :: _ => ⟨[], [], .ok report⟩

end Assembly

/-- Assembles the sources in order. The rule starts afresh with each. -/
def assemble {State : Type} (rule : Rule State) (read : Path → Except IoError Source)
    (sources : List Path) (artifact : Path) (room : Option Nat := none) : Transcript :=
  Assembly.perform artifact room (Assembly.steps rule read sources)

end Amalgam
