import Amalgam.Error

namespace Amalgam

/-- An artifact with its sources in order. -/
structure ArtifactPlan where
  role : Role
  sources : List Path
  output : Path
  deriving Repr, DecidableEq

/-- Every path that a run touches. -/
structure Plan where
  base : Path
  header : ArtifactPlan
  implementation : ArtifactPlan
  deriving Repr, DecidableEq

namespace Plan

/-- Lays out the paths below the base directory. A given output directory replaces the one of the
settings. -/
def ofSettings (settings : Settings) (base : Path) (outputDir : Option Path) : Plan :=
  let formats := base.join settings.formatsDir
  let outputs := base.join (outputDir.getD settings.outputDir)
  let artifact (role : Role) (subdir : Path) (files : List String) (output : String) : ArtifactPlan :=
    { role
      sources := files.map fun file => (formats.join subdir).join (.ofString file)
      output := outputs.join (.ofString output) }
  { base
    header := artifact .header settings.header.subdir settings.header.files settings.header.output
    implementation := artifact .implementation settings.implementation.subdir
      settings.implementation.files settings.implementation.output }

/-- The artifacts in the order in which they are made. -/
def artifacts (plan : Plan) : List ArtifactPlan :=
  [plan.header, plan.implementation]

/-- A path as it is shown: below the base directory, if it is there. -/
def shown (plan : Plan) (path : Path) : Path :=
  (path.relativeTo? plan.base).getD path

end Plan

/-- The environment variables that are set. -/
abbrev Environment := List (String × String)

/-- A name that is empty or holds an equals sign or a zero byte is never set. -/
def Environment.value? (environment : Environment) (name : String) : Option String :=
  if name.isEmpty || name.contains '=' || name.contains '\x00' then none else environment.lookup name

/-- The variable that names the home directory. -/
def homeVariable : String := "HOME"

/-- The home directory is the one that the environment names. If it names none, it is the one of the
user's account, which may have none either. -/
def Environment.home (environment : Environment) (account : Option Path) : Option Path :=
  match environment.value? homeVariable with
  | some name => if name.isEmpty then account else some (.ofString name)
  | none => account

/-- The base directory is the given one, or else the value of the variable that the settings name,
which must not be empty. -/
def resolveBase (settings : Settings) (environment : Environment) : Option Path → Except Error Path
  | some base => .ok base
  | none =>
    match environment.value? settings.baseVariable with
    | some value =>
      if value.isEmpty then .error (.baseNotSet settings.baseVariable) else .ok (.ofString value)
    | none => .error (.baseNotSet settings.baseVariable)

end Amalgam
