import Amalgam.Error
import Amalgam.Event
import Amalgam.Settings.Decode

namespace Amalgam.Settings

/-- The name of a settings file. -/
def fileName : String := ".standalone.toml"

/-- The settings file of a directory. -/
def fileIn (directory : Path) : Path :=
  directory.join (.ofString fileName)

/-- Where settings are looked for: in the start directory, in its ancestors from the nearest to the
farthest, and in the home directory if there is one. -/
def candidates (home : Option Path) (start : Path) : List Path :=
  (start.ancestors ++ home.toList).map fileIn

/-- The settings file in the home directory. -/
def userFile : Option Path → Except Error Path
  | some home => .ok (fileIn home)
  | none => .error .homeNotFound

/-- The first candidate that is a regular file. A home directory is asked for only if there is no
settings file on the way up from the start directory. -/
def discover (files : FileSystem) (home : Option Path) (start : Path) : Except Error (Option Path) :=
  match (start.ancestors.map fileIn).find? files.isFile with
  | some path => .ok (some path)
  | none =>
    match userFile home with
    | .error error => .error error
    | .ok path => .ok (if files.isFile path then some path else none)

/-- Settings with the file that they come from, if they come from one. -/
structure Loaded where
  settings : Settings := {}
  source : Option Path := none

/-- Reads settings from a text. The path is named in errors. -/
def parse (path : Path) (text : String) : Except Error Settings :=
  match (Toml.parse? text).bind ofEntries? with
  | none => .error (.parseSettings path)
  | some settings =>
    match settings.fault? with
    | some fault => .error (.invalidSetting fault)
    | none => .ok settings

def readFile (files : FileSystem) (path : Path) : Except Error Settings :=
  match files.read path with
  | .error cause => .error (.readSettings path cause)
  | .ok content =>
    match content.toString? with
    | none => .error (.readSettings path .invalidText)
    | some text => parse path text

/-- A given file is the only one that is looked at, and it has to exist. Without any file the
defaults are used. -/
def load (files : FileSystem) (home : Option Path) (start : Path) (explicit : Option Path) :
    List Event × Except Error Loaded :=
  let chosen : Except Error (Option Path) := match explicit with
    | some path => .ok (some path)
    | none => discover files home start
  match chosen with
  | .error error => ([], .error error)
  | .ok (some path) =>
    ([.loadingSettings path],
      (readFile files path).map fun settings => { settings, source := some path })
  | .ok none => ([.noSettingsFound], .ok {})

end Amalgam.Settings
