import Amalgam.Files
import Amalgam.Settings.Basic

namespace Amalgam

def IoError.message : IoError → String
  | notFound => "No such file or directory (os error 2)"
  | isADirectory => "Is a directory (os error 21)"
  | notADirectory => "Not a directory (os error 20)"
  | invalidPath => "file name contained an unexpected NUL byte"
  | invalidText => "stream did not contain valid UTF-8"
  | storageFull => "No space left on device (os error 28)"

inductive Error where
  | readSource (path : Path) (cause : IoError)
  | writeArtifact (path : Path) (cause : IoError)
  | readSettings (path : Path) (cause : IoError)
  | parseSettings (path : Path)
  | invalidPattern (pattern : String)
  | invalidSetting (fault : Settings.Fault)
  | baseNotSet (name : String)
  | homeNotFound
  deriving Repr, DecidableEq

/-- What an error goes back to: nothing, a failed file operation, or a text that is not well-formed,
whose defect is not described. -/
inductive Error.Cause where
  | none
  | io (error : IoError)
  | malformed
  deriving Repr, DecidableEq

namespace Error

def message : Error → String
  | readSource path _ => "Failed to read source file: " ++ path.toString
  | writeArtifact path _ => "Failed to write artifact: " ++ path.toString
  | readSettings path _ => "Failed to read config file: " ++ path.toString
  | parseSettings path => "Failed to parse config file: " ++ path.toString
  | invalidPattern pattern => "Invalid regex pattern in rule: " ++ pattern
  | invalidSetting fault => "Invalid config value for " ++ fault.field ++ ": " ++ fault.reason
  | baseNotSet name => "Base directory not set: pass --base or set " ++ name
  | homeNotFound => "Failed to resolve home directory"

def cause : Error → Cause
  | readSource _ cause | writeArtifact _ cause | readSettings _ cause => .io cause
  | parseSettings _ | invalidPattern _ => .malformed
  | invalidSetting _ | baseNotSet _ | homeNotFound => .none

end Error

end Amalgam
