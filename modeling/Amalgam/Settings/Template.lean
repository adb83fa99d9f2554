namespace Amalgam.Settings

/-- The lines of the template. They spell out every default. -/
def templateLines : List String := [
    "# standalone-gen configuration",
    "# Every value below is the built-in default; delete what you don't change.",
    "",
    "# Environment variable holding the framework checkout (overridden by --base).",
    "base-env-var = \"CMSSW_BASE\"",
    "",
    "# Source package and artifact directory, relative to the base directory.",
    "formats-dir = \"src/CondFormats/BTagObjects\"",
    "output-dir = \"src/CondTools/BTag/test\"",
    "",
    "[header]",
    "subdir = \"interface\"",
    "files = [\"BTagEntry.h\", \"BTagCalibration.h\", \"BTagCalibrationReader.h\"]",
    "output = \"BTagCalibrationStandalone.h\"",
    "drop_include_prefixes = [\"CondFormats\"]",
    "drop_markers = [\"COND_SERIALIZABLE\"]",
    "drop_patterns = []",
    "",
    "[implementation]",
    "subdir = \"src\"",
    "files = [\"BTagEntry.cc\", \"BTagCalibration.cc\", \"BTagCalibrationReader.cc\"]",
    "output = \"BTagCalibrationStandalone.cc\"",
    "drop_include_prefixes = [\"CondFormats\", \"FWCore\"]",
    "drop_patterns = []",
    "system_includes = [\"<iostream>\", \"<exception>\"]",
    "throw_pattern = \"throw cms::Exception\"",
    "diagnostic = 'std::cerr << \"ERROR in BTagCalibration: \"'",
    "raise = \"throw std::exception();\"",
    "",
    "# \"line-offset\" appends the raise `terminator_offset` lines after the throw;",
    "# \"statement-end\" appends it after the line that closes the statement.",
    "terminator = \"line-offset\"",
    "terminator_offset = 2"]

def templateChars : List Char :=
  templateLines.flatMap fun line => line.toList ++ ['\n']

def template : String :=
  String.ofList templateChars

end Amalgam.Settings
