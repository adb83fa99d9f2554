import Amalgam.Path
import Amalgam.Text.Bytes

namespace Amalgam

/-- Why reading or writing a file fails. -/
inductive IoError where
  | notFound
  | isADirectory
  | notADirectory
  /-- the path holds a zero byte -/
  | invalidPath
  /-- the content is not UTF-8 -/
  | invalidText
  | storageFull
  deriving Repr, DecidableEq

/-- The names that lead from the root to a file or directory. -/
abbrev Location := List Segment

inductive Node where
  | file (content : Bytes)
  | directory
  deriving Repr, DecidableEq

/-- A file system without links. The root directory always exists, so it needs no entry, and relative
paths start from the working directory. -/
structure FileSystem where
  entries : List (Location × Node) := []
  workingDirectory : Location := []
  deriving Repr

def Location.toPath (location : Location) : Path :=
  ⟨'/' :: Segment.join location⟩

namespace FileSystem

def get? (files : FileSystem) (location : Location) : Option Node :=
  if location = [] then some .directory else files.entries.lookup location

def set (files : FileSystem) (location : Location) (node : Node) : FileSystem :=
  { files with entries := (location, node) :: files.entries.filter (·.1 ≠ location) }

/-- Goes from a directory to what a segment names there. -/
def step (files : FileSystem) (location : Location) (segment : Segment) : Except IoError Location :=
  match files.get? location with
  | none => .error .notFound
  | some (.file _) => .error .notADirectory
  | some .directory =>
    if segment.isIdle then .ok location
    else if segment.isUp then .ok location.dropLast
    else .ok (location ++ [segment])

/-- Goes through the segments one after the other. Everything before the last one has to be a
directory. -/
def walk (files : FileSystem) (location : Location) : List Segment → Except IoError Location
  | [] => .ok location
  | segment :: segments =>
    match files.step location segment with
    | .ok next => walk files next segments
    | .error cause => .error cause

/-- Where a path starts. -/
def origin (files : FileSystem) (path : Path) : Location :=
  if path.isAbsolute then [] else files.workingDirectory

/-- A path that is empty or holds a zero byte leads nowhere. -/
def fault? (path : Path) : Option IoError :=
  if path.chars.contains '\x00' then some .invalidPath
  else if path.chars.isEmpty then some .notFound
  else none

/-- The location that a path leads to. There need not be anything at it. -/
def locate (files : FileSystem) (path : Path) : Except IoError Location :=
  match fault? path with
  | some cause => .error cause
  | none => files.walk (files.origin path) (Segment.split path.chars)

def read (files : FileSystem) (path : Path) : Except IoError Bytes :=
  match files.locate path with
  | .error cause => .error cause
  | .ok location =>
    match files.get? location with
    | none => .error .notFound
    | some .directory => .error .isADirectory
    | some (.file content) => .ok content

def isFile (files : FileSystem) (path : Path) : Bool :=
  match files.read path with
  | .ok _ => true
  | .error _ => false

def exists? (files : FileSystem) (path : Path) : Bool :=
  match files.locate path with
  | .ok location => (files.get? location).isSome
  | .error _ => false

/-- The location of the file that a path names for writing. The last segment has to name something
in an existing directory, and what it names must not be a directory; neither does a slash behind
it. -/
def target (files : FileSystem) (path : Path) : Except IoError Location :=
  match fault? path with
  | some cause => .error cause
  | none =>
    let segments := (Segment.split path.chars).reverse
    match segments.dropWhile (· == []) with
    | [] => .error .isADirectory
    | last :: before =>
      match files.walk (files.origin path) (before.reverse ++ [last]) with
      | .error cause => .error cause
      | .ok location =>
        if Segment.isIdle last || Segment.isUp last || segments.head? == some [] then .error .isADirectory
        else match files.get? location with
          | some .directory => .error .isADirectory
          | _ => .ok location

/-- Creates a file, or replaces its content. -/
def write (files : FileSystem) (path : Path) (content : Bytes) : Except IoError FileSystem :=
  (files.target path).map fun location => files.set location (.file content)

/-- Adds a directory and those above it. -/
def addDirectories (files : FileSystem) (location : Location) : FileSystem :=
  (List.range location.length).foldl (fun files n =>
    let above := location.take (n + 1)
    if (files.get? above).isSome then files else files.set above .directory) files

/-- Adds a file or a directory with the directories above it. -/
def add (files : FileSystem) (location : Location) : Node → FileSystem
  | .directory => files.addDirectories location
  | node => (files.addDirectories location.dropLast).set location node

/-- Removes what is at a location and everything below it. -/
def remove (files : FileSystem) (location : Location) : FileSystem :=
  { files with entries := files.entries.filter fun entry => !location.isPrefixOf entry.1 }

end FileSystem

end Amalgam
