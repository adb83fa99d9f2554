import Amalgam.CommandLine.Scope
import Amalgam.Pattern.Meaning

namespace Amalgam

/-- What is at a path of the machine, if there is anything. -/
def nodeAt (path : String) : IO (Option Node) := do
  match ← (IO.FS.realPath (path ++ "/.")).toBaseIO with
  | .ok _ => return some .directory
  | .error _ =>
    match ← (IO.FS.readBinFile path).toBaseIO with
    | .ok content => return some (.file content.toList)
    | .error _ => return none

/-- Adds to the picture what is along a path, as far as there are directories. -/
def addAlong (files : FileSystem) (path : Path) : IO FileSystem := do
  let mut files := files
  let mut location := files.origin path
  for segment in Segment.split path.chars do
    if segment.isUp then location := location.dropLast
    else if !segment.isIdle then
      location := location ++ [segment]
      match ← nodeAt location.toPath.toString with
      | some node =>
        files := files.set location node
        if node != .directory then return files
      | none => return files
  return files

/-- The variables of these names that are set. -/
def readEnvironment (names : List String) : IO Environment := do
  names.filterMapM fun name => do
    return (← IO.getEnv name).map fun value => (name, value)

/-- The value of a field in the description of a process. -/
def fieldOf? (description name : String) : Option String :=
  (description.splitOn "\n").findSome? fun line =>
    match line.splitOn "\t" with
    | key :: value :: _ => if key == name then some value else none
    | _ => none

/-- The home directory of a user in the list of accounts. -/
def homeOf? (accounts user : String) : Option Path :=
  (accounts.splitOn "\n").findSome? fun account =>
    match account.splitOn ":" with
    | [_, _, id, _, _, home, _] => if id == user && !home.isEmpty then some (.ofString home) else none
    | _ => none

/-- The home directory of the account that the program runs for. -/
def accountHome : IO (Option Path) := do
  match ← (IO.FS.readFile "/proc/self/status").toBaseIO, ← (IO.FS.readFile "/etc/passwd").toBaseIO with
  | .ok status, .ok accounts => return (fieldOf? status "Uid:").bind (homeOf? accounts)
  | _, _ => return none

/-- Writes the files that differ from those before. -/
def writeChanges (before after : FileSystem) : IO Unit := do
  for (location, node) in after.entries do
    if before.get? location != some node then
      match node with
      | .file content => IO.FS.writeBinFile location.toPath.toString ⟨content.toArray⟩
      | .directory => pure ()

end Amalgam

section

open Amalgam

/-- Runs on a picture of the files that the program looks at, and writes back those that have changed. -/
def main (arguments : List String) : IO UInt32 := do
  let start := Path.ofString (toString (← IO.currentDir))
  let environment ← readEnvironment [homeVariable, CommandLine.logVariable]
  let account ← accountHome
  let options := CommandLine.optionsOf arguments
  let empty : FileSystem := { workingDirectory := start.names }
  let request := CommandLine.requestOf environment account options empty
  let files ← (start :: CommandLine.settingsPaths request).foldlM addAlong empty
  let settings := CommandLine.settingsOf request files
  let environment := environment ++ (← readEnvironment [settings.baseVariable])
  let files ← (CommandLine.plannedPaths { request with environment } settings).foldlM addAlong files
  let ended := CommandLine.run Pattern.compile environment account arguments files
  writeChanges files ended.files
  for line in ended.output do
    IO.println line
  for line in ended.errors do
    IO.eprintln line
  return ended.code.toUInt32

end
