import Amalgam.Rules
import Amalgam.Settings.Discovery

namespace Amalgam

/-- What a run is asked for. -/
structure Request where
  environment : Environment
  /-- the home directory, if it is known -/
  home : Option Path
  /-- where the search for a settings file starts -/
  start : Path
  settingsFile : Option Path := none
  base : Option Path := none
  outputDir : Option Path := none

/-- What a run tells while it goes on. -/
inductive Progress where
  | log (event : Event)
  | loaded (source : Option Path)
  | creating (shown : Path)
  | created (role : Role) (shown : Path) (report : Report)
  deriving Repr, DecidableEq

/-- What a run was doing when it failed. -/
inductive Stage where
  | loadSettings
  | resolveBase
  | compileRules
  | create (shown : Path)
  deriving Repr, DecidableEq

structure Failure where
  stage : Stage
  error : Error
  deriving Repr, DecidableEq

/-- A run up to its end or its failure. -/
structure Generation where
  files : FileSystem
  progress : List Progress
  failure : Option Failure

namespace Generation

/-- What artifacts are made from. -/
structure Preparation where
  plan : Plan
  rules : Rules

/-- Everything behind the loading of the settings that happens before the first artifact. -/
def prepare (compile : PatternCompiler) (request : Request) (settings : Settings) :
    Except Failure Preparation :=
  match resolveBase settings request.environment request.base with
  | .error error => .error ⟨.resolveBase, error⟩
  | .ok base =>
    match Rules.ofSettings compile settings with
    | .error error => .error ⟨.compileRules, error⟩
    | .ok rules => .ok ⟨Plan.ofSettings settings base request.outputDir, rules⟩

/-- Makes artifacts one after the other, each on the files that the one before it left. -/
def makeAll (preparation : Preparation) (files : FileSystem) : List ArtifactPlan → Generation
  | [] => ⟨files, [], none⟩
  | artifact :: artifacts =>
    let shown := preparation.plan.shown artifact.output
    let made := preparation.rules.make files artifact
    let told := .creating shown :: made.events.map .log
    match made.result with
    | .error error => ⟨made.files, told, some ⟨.create shown, error⟩⟩
    | .ok report =>
      let rest := makeAll preparation made.files artifacts
      { rest with progress := told ++ .created artifact.role shown report :: rest.progress }

/-- Runs on the given files. The first failure ends the run, and nothing is written before the rules are
compiled. -/
def run (compile : PatternCompiler) (request : Request) (files : FileSystem) : Generation :=
  let (events, result) := Settings.load files request.home request.start request.settingsFile
  let told := events.map Progress.log
  match result with
  | .error error => ⟨files, told, some ⟨.loadSettings, error⟩⟩
  | .ok loaded =>
    let told := told ++ [.loaded loaded.source]
    match prepare compile request loaded.settings with
    | .error failure => ⟨files, told, some failure⟩
    | .ok preparation =>
      let made := makeAll preparation files preparation.plan.artifacts
      { made with progress := told ++ made.progress }

end Generation

end Amalgam
