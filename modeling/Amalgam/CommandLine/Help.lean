import Amalgam.CommandLine.Arguments

namespace Amalgam.CommandLine

def programName : String := "standalone-gen"

def versionLine : String := programName ++ " 0.1.0"

namespace HelpTopic

/-- The lines of a help text. -/
def lines : HelpTopic → List String
  | program => [
    "CLI tool for extracting framework sources into standalone, dependency-free artifacts",
    "",
    "Usage: standalone-gen [OPTIONS] [COMMAND]",
    "",
    "Commands:",
    "  config  Configuration management commands",
    "  help    Print this message or the help of the given subcommand(s)",
    "",
    "Options:",
    "      --base <DIR>        Framework base directory (defaults to the configured environment variable)",
    "      --output-dir <DIR>  Directory receiving the artifacts, relative to the base directory",
    "      --config <FILE>     Config file to use instead of the .standalone.toml cascade",
    "      --init              Create a template .standalone.toml in the current directory",
    "      --force             Overwrite existing .standalone.toml when using --init",
    "  -v, --verbose...        Increase log verbosity (-v info, -vv debug)",
    "  -h, --help              Print help",
    "  -V, --version           Print version"]
  | settings => [
    "Configuration management commands",
    "",
    "Usage: standalone-gen config <COMMAND>",
    "",
    "Commands:",
    "  show      Display the effective configuration and where it came from",
    "  validate  Check the config file and its patterns without generating anything",
    "  help      Print this message or the help of the given subcommand(s)",
    "",
    "Options:",
    "  -h, --help  Print help"]
  | showSettings =>
    leaf "Display the effective configuration and where it came from" "config show"
  | checkSettings =>
    leaf "Check the config file and its patterns without generating anything" "config validate"
  | help => ofHelp "help"
  | settingsHelp => ofHelp "config help"
where
  /-- The help of a command that takes nothing else. -/
  leaf (about command : String) : List String := [
    about,
    "",
    "Usage: " ++ programName ++ " " ++ command,
    "",
    "Options:",
    "  -h, --help  Print help"]
  ofHelp (command : String) : List String := [
    "Print this message or the help of the given subcommand(s)",
    "",
    "Usage: " ++ programName ++ " " ++ command ++ " [COMMAND]...",
    "",
    "Arguments:",
    "  [COMMAND]...  Print help for the subcommand(s)"]

end HelpTopic

end Amalgam.CommandLine
