import Amalgam.Path
import Amalgam.Replacement
import Amalgam.Text.Space

namespace Amalgam

/-- The two artifacts of a run. -/
inductive Role where
  | header
  | implementation
  deriving Repr, DecidableEq

def Role.name : Role → String
  | header => "header"
  | implementation => "implementation"

structure HeaderSettings where
  /-- directory of the headers below the formats directory -/
  subdir : Path := .ofString "interface"
  /-- file names in output order -/
  files : List String := ["BTagEntry.h", "BTagCalibration.h", "BTagCalibrationReader.h"]
  /-- name of the artifact -/
  output : String := "BTagCalibrationStandalone.h"
  dropIncludePrefixes : List String := ["CondFormats"]
  dropMarkers : List String := ["COND_SERIALIZABLE"]
  dropPatterns : List String := []
  deriving Repr, DecidableEq

structure ImplementationSettings where
  /-- directory of the implementation files below the formats directory -/
  subdir : Path := .ofString "src"
  /-- file names in output order -/
  files : List String := ["BTagEntry.cc", "BTagCalibration.cc", "BTagCalibrationReader.cc"]
  /-- name of the artifact -/
  output : String := "BTagCalibrationStandalone.cc"
  dropIncludePrefixes : List String := ["CondFormats", "FWCore"]
  dropPatterns : List String := []
  /-- headers included behind the header artifact, with their brackets -/
  systemIncludes : List String := ["<iostream>", "<exception>"]
  /-- what marks the throw of a framework exception -/
  throwPattern : String := "throw cms::Exception"
  /-- what replaces the throw -/
  diagnostic : String := "std::cerr << \"ERROR in BTagCalibration: \""
  /-- the statement put behind the end of the throw -/
  raise : String := "throw std::exception();"
  terminator : Terminator := .lineOffset
  /-- lines from the throw to the raise, if they are counted -/
  terminatorOffset : Nat := 2
  deriving Repr, DecidableEq

/-- The settings of a run. The defaults are those of the package that the tool was made for. -/
structure Settings where
  /-- environment variable that holds the base directory -/
  baseVariable : String := "CMSSW_BASE"
  /-- directory of the source package below the base directory -/
  formatsDir : Path := .ofString "src/CondFormats/BTagObjects"
  /-- directory of the artifacts below the base directory -/
  outputDir : Path := .ofString "src/CondTools/BTag/test"
  header : HeaderSettings := {}
  implementation : ImplementationSettings := {}
  deriving Repr, DecidableEq

namespace Settings

/-- Why settings cannot drive a run. -/
inductive Fault where
  | blankFileName (role : Role)
  | blankOutput (role : Role)
  | sameOutput
  | emptyThrowPattern
  | emptyDiagnostic
  | zeroOffset
  deriving Repr, DecidableEq

namespace Fault

/-- The key of the setting at fault. -/
def field : Fault → String
  | blankFileName role => role.name ++ ".files"
  | blankOutput role => role.name ++ ".output"
  | sameOutput => "implementation.output"
  | emptyThrowPattern => "implementation.throw_pattern"
  | emptyDiagnostic => "implementation.diagnostic"
  | zeroOffset => "implementation.terminator_offset"

def reason : Fault → String
  | blankFileName _ => "file names must not be empty"
  | blankOutput _ | emptyThrowPattern | emptyDiagnostic => "must not be empty"
  | sameOutput => "must differ from header.output"
  | zeroOffset => "must be at least 1"

end Fault

/-- A blank name is empty or white space only. -/
def isBlank (name : String) : Bool :=
  name.toList.all isWhiteSpace

/-- The first fault of the settings. -/
def fault? (settings : Settings) : Option Fault :=
  let header := settings.header
  let implementation := settings.implementation
  if header.files.any isBlank then some (.blankFileName .header)
  else if implementation.files.any isBlank then some (.blankFileName .implementation)
  else if isBlank header.output then some (.blankOutput .header)
  else if isBlank implementation.output then some (.blankOutput .implementation)
  else if header.output = implementation.output then some .sameOutput
  else if implementation.throwPattern.isEmpty then some .emptyThrowPattern
  else if implementation.diagnostic.isEmpty then some .emptyDiagnostic
  else if implementation.terminator = .lineOffset ∧ implementation.terminatorOffset = 0 then
    some .zeroOffset
  else none

end Settings

end Amalgam
