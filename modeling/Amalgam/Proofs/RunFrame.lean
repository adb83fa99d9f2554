import Amalgam.Generation
import Amalgam.Pattern.Meaning
import Amalgam.Proofs.Making

namespace Amalgam

/-- No artifact of the plan takes the place of a source. -/
def Plan.KeepsSources (plan : Plan) (files : FileSystem) : Prop :=
  ∀ made ∈ plan.artifacts, ∀ reader ∈ plan.artifacts, ∀ source ∈ reader.sources,
    ¬ files.Overwrites made.output source

instance (plan : Plan) (files : FileSystem) : Decidable (plan.KeepsSources files) :=
  inferInstanceAs (Decidable (∀ made ∈ plan.artifacts, ∀ reader ∈ plan.artifacts, ∀ source ∈ reader.sources,
    ¬ files.Overwrites made.output source))

namespace Rules

variable {rules : Rules} {files after : FileSystem} {artifact : ArtifactPlan} {made : Made}

/-- The file of the artifact holds the preamble and the contributions of these sources, and nothing else. -/
def Holds (rules : Rules) (artifact : ArtifactPlan) (files after : FileSystem) (sources : List Path) : Prop :=
  ∃ contents : List Bytes, sources.map files.read = contents.map .ok ∧
    after.read artifact.output = .ok (rules.text artifact.role contents)

/-- The artifact has failed with this error: either its file cannot be created, or it holds the sources before
the first one that cannot be read. -/
def BrokenOff (rules : Rules) (artifact : ArtifactPlan) (files after : FileSystem) (error : Error) : Prop :=
  ((∀ location, files.target artifact.output ≠ .ok location) ∧
    ∃ cause, error = .writeArtifact artifact.output cause) ∨
  ∃ before source later cause, artifact.sources = before ++ source :: later ∧
    (∀ content, files.read source ≠ .ok content) ∧ error = .readSource source cause ∧
    rules.Holds artifact files after before

theorem Makes.holds {report : Report} (makes : rules.Makes files artifact made) (done : made.result = .ok report) :
    rules.Holds artifact files made.files artifact.sources := by
  obtain ⟨location, contents, found, all, rfl⟩ := makes.eq_of_ok done
  exact ⟨contents, all, FileSystem.read_target found⟩

theorem Makes.brokenOff {error : Error} (makes : rules.Makes files artifact made)
    (failed : made.result = .error error) : rules.BrokenOff artifact files made.files error := by
  cases makes with
  | refused found =>
    cases failed
    refine Or.inl ⟨fun location => ?_, _, rfl⟩
    rw [found]
    exact nofun
  | broken found parts all unreadable =>
    cases failed
    exact Or.inr ⟨_, _, _, _, parts, unreadable, rfl, _, all, FileSystem.read_target found⟩
  | complete => cases failed

theorem Holds.of_reads {files' after' : FileSystem} {sources : List Path}
    (reads : ∀ source ∈ sources, ∀ content, files.read source = .ok content → files'.read source = .ok content)
    (kept : ∀ content, after.read artifact.output = .ok content → after'.read artifact.output = .ok content)
    (holds : rules.Holds artifact files after sources) : rules.Holds artifact files' after' sources := by
  obtain ⟨contents, all, text⟩ := holds
  exact ⟨contents, Assembly.contents_congr reads all, kept _ text⟩

theorem BrokenOff.of_reads {files' : FileSystem} {error : Error} (same : files.SameDirectories files')
    (reads : ∀ source ∈ artifact.sources, ∀ content,
      files.read source = .ok content ↔ files'.read source = .ok content)
    (broken : rules.BrokenOff artifact files after error) : rules.BrokenOff artifact files' after error := by
  rcases broken with ⟨refused, cause⟩ | ⟨before, source, later, cause, parts, unreadable, named, holds⟩
  · exact Or.inl ⟨fun location => same.target_eq_ok_iff.not.mp (refused location), cause⟩
  · have member : source ∈ artifact.sources := by simp [parts]
    have front : ∀ source ∈ before, source ∈ artifact.sources := by
      intro source inside
      simp [parts, inside]
    refine Or.inr ⟨before, source, later, cause, parts, fun content => ?_, named, ?_⟩
    · exact (reads source member content).not.mp (unreadable content)
    · exact holds.of_reads (fun source inside content => (reads source (front source inside) content).mp)
        fun _ => id

end Rules

/-- The rules of the default settings. -/
def Rules.stock : Rules where
  header := {
    includePrefixes := [Bytes.ofString "CondFormats"]
    markers := [Bytes.ofString "COND_SERIALIZABLE"] }
  implementation := .stock .lineOffset

section Both

variable {plan : Plan} {files : FileSystem}

theorem Plan.header_mem (plan : Plan) : plan.header ∈ plan.artifacts :=
  List.mem_cons_self

theorem Plan.implementation_mem (plan : Plan) : plan.implementation ∈ plan.artifacts :=
  List.mem_cons_of_mem _ List.mem_cons_self

theorem Plan.KeepsSources.makes_header (keeps : plan.KeepsSources files) (rules : Rules) :
    rules.Makes files plan.header (rules.make files plan.header) :=
  Rules.makes_of_make (keeps _ plan.header_mem _ plan.header_mem)

/-- The sources of the second artifact are the same when the first one has been made. -/
theorem Plan.KeepsSources.read_iff (keeps : plan.KeepsSources files) (rules : Rules) :
    ∀ source ∈ plan.implementation.sources, ∀ content,
      (rules.make files plan.header).files.read source = .ok content ↔ files.read source = .ok content :=
  fun source member _ => Rules.read_make (keeps _ plan.header_mem _ plan.implementation_mem source member)

theorem Plan.KeepsSources.makes_implementation (keeps : plan.KeepsSources files) (rules : Rules) :
    rules.Makes (rules.make files plan.header).files plan.implementation
      (rules.make (rules.make files plan.header).files plan.implementation) := by
  have same := rules.sameDirectories_make files plan.header
  refine Rules.makes_of_make fun source member => ?_
  exact same.overwrites_iff.not.mp (keeps _ plan.implementation_mem _ plan.implementation_mem source member)

/-- The second artifact leaves the first one as it is. -/
theorem Plan.KeepsSources.holds_header (keeps : plan.KeepsSources files) {rules : Rules} {report : Report}
    (apart : ¬ files.Overwrites plan.header.output plan.implementation.output)
    (done : (rules.make files plan.header).result = .ok report) :
    rules.Holds plan.header files (rules.make (rules.make files plan.header).files plan.implementation).files
      plan.header.sources := by
  have makes := keeps.makes_header rules
  obtain ⟨location, _, found, _⟩ := makes.eq_of_ok done
  have same := rules.sameDirectories_make files plan.header
  have apart' : ¬ (rules.make files plan.header).files.Overwrites plan.implementation.output plan.header.output :=
    fun overwrites => apart ((same.overwrites_iff.mpr overwrites).symm found)
  exact (makes.holds done).of_reads (fun _ _ _ => id) fun content => (Rules.read_make apart').mpr

theorem Plan.KeepsSources.holds_implementation (keeps : plan.KeepsSources files) {rules : Rules} {report : Report}
    (done : (rules.make (rules.make files plan.header).files plan.implementation).result = .ok report) :
    rules.Holds plan.implementation files
      (rules.make (rules.make files plan.header).files plan.implementation).files plan.implementation.sources :=
  ((keeps.makes_implementation rules).holds done).of_reads
    (fun source member content => (keeps.read_iff rules source member content).mp) fun _ => id

theorem Plan.KeepsSources.brokenOff_implementation (keeps : plan.KeepsSources files) {rules : Rules} {error : Error}
    (failed : (rules.make (rules.make files plan.header).files plan.implementation).result = .error error) :
    rules.BrokenOff plan.implementation files
      (rules.make (rules.make files plan.header).files plan.implementation).files error :=
  ((keeps.makes_implementation rules).brokenOff failed).of_reads
    (rules.sameDirectories_make files plan.header).symm (keeps.read_iff rules)

end Both

namespace Generation

variable {preparation : Preparation} {files : FileSystem} {artifact : ArtifactPlan}

theorem makeAll_of_error {error : Error} (failed : (preparation.rules.make files artifact).result = .error error)
    (artifacts : List ArtifactPlan) :
    (makeAll preparation files (artifact :: artifacts)).files = (preparation.rules.make files artifact).files ∧
      (makeAll preparation files (artifact :: artifacts)).failure =
        some ⟨.create (preparation.plan.shown artifact.output), error⟩ := by
  simp only [makeAll, failed, and_self]

theorem makeAll_of_ok {report : Report} (done : (preparation.rules.make files artifact).result = .ok report)
    (artifacts : List ArtifactPlan) :
    (makeAll preparation files (artifact :: artifacts)).files =
        (makeAll preparation (preparation.rules.make files artifact).files artifacts).files ∧
      (makeAll preparation files (artifact :: artifacts)).failure =
        (makeAll preparation (preparation.rules.make files artifact).files artifacts).failure := by
  simp only [makeAll, done, and_self]

/-- Artifacts that are made one after the other change none but their own files. -/
theorem get?_makeAll {artifacts : List ArtifactPlan} {location : Location}
    (apart : ∀ artifact ∈ artifacts, files.target artifact.output ≠ .ok location) :
    (makeAll preparation files artifacts).files.get? location = files.get? location := by
  induction artifacts generalizing files with
  | nil => rfl
  | cons artifact artifacts ih =>
    obtain ⟨first, later⟩ := List.forall_mem_cons.mp apart
    have made : (preparation.rules.make files artifact).files.get? location = files.get? location :=
      Rules.get?_make first
    cases result : (preparation.rules.make files artifact).result with
    | error error => rw [(makeAll_of_error result artifacts).1, made]
    | ok report =>
      -- The later artifacts go where they would have gone before.
      have same := Rules.sameDirectories_make preparation.rules files artifact
      rw [(makeAll_of_ok result artifacts).1, ih fun other member => ?_, made]
      exact same.target_eq_ok_iff.not.mp (later other member)

theorem read_makeAll {artifacts : List ArtifactPlan} {path : Path} {content : Bytes}
    (apart : ∀ artifact ∈ artifacts, ¬ files.Overwrites artifact.output path) :
    (makeAll preparation files artifacts).files.read path = .ok content ↔ files.read path = .ok content := by
  induction artifacts generalizing files with
  | nil => rfl
  | cons artifact artifacts ih =>
    obtain ⟨first, later⟩ := List.forall_mem_cons.mp apart
    have made : (preparation.rules.make files artifact).files.read path = .ok content ↔
        files.read path = .ok content := Rules.read_make first
    cases result : (preparation.rules.make files artifact).result with
    | error error => rw [(makeAll_of_error result artifacts).1, made]
    | ok report =>
      have same := Rules.sameDirectories_make preparation.rules files artifact
      rw [(makeAll_of_ok result artifacts).1, ih fun other member => ?_, made]
      exact same.overwrites_iff.not.mp (later other member)

/-- What a run makes its artifacts from, if it gets that far. -/
def prepared (compile : PatternCompiler) (request : Request) (files : FileSystem) : Except Failure Preparation :=
  match (Settings.load files request.home request.start request.settingsFile).2 with
  | .error error => .error ⟨.loadSettings, error⟩
  | .ok loaded => prepare compile request loaded.settings

variable {compile : PatternCompiler} {request : Request}

theorem run_of_unprepared {failure : Failure} (failed : prepared compile request files = .error failure) :
    (run compile request files).files = files ∧ (run compile request files).failure = some failure := by
  unfold prepared at failed
  unfold run
  split at failed
  next error loading =>
    cases failed
    simp only [loading, and_self]
  next loaded loading => simp only [loading, failed, and_self]

theorem run_of_prepared (ready : prepared compile request files = .ok preparation) :
    (run compile request files).files = (makeAll preparation files preparation.plan.artifacts).files ∧
      (run compile request files).failure = (makeAll preparation files preparation.plan.artifacts).failure := by
  unfold prepared at ready
  unfold run
  split at ready
  next => cases ready
  next loaded loading => simp only [loading, ready, and_self]

/-- Nothing is made before everything is prepared. -/
theorem stage_of_unprepared {failure : Failure} (failed : prepared compile request files = .error failure)
    (shown : Path) : failure.stage ≠ .create shown := by
  unfold prepared prepare at failed
  split at failed
  next =>
    cases failed
    exact nofun
  next =>
    split at failed
    next =>
      cases failed
      exact nofun
    next =>
      split at failed
      · cases failed
        exact nofun
      · cases failed

/-- A run that fails before its first artifact changes nothing. With its artifacts made, a run changes no other
file than theirs. If the header artifact fails, the implementation artifact is not touched; if the
implementation artifact fails, the header artifact is complete. The artifact that fails holds what could be read
before the failure. -/
theorem run_frame (compile : PatternCompiler) (request : Request) (files : FileSystem) :
    let generation := run compile request files
    (∀ failure, prepared compile request files = .error failure →
      generation.files = files ∧ generation.failure = some failure ∧ ∀ shown, failure.stage ≠ .create shown) ∧
    ∀ preparation, prepared compile request files = .ok preparation →
      ¬ files.Overwrites preparation.plan.header.output preparation.plan.implementation.output →
      preparation.plan.KeepsSources files →
      let plan := preparation.plan
      let rules := preparation.rules
      let header := rules.make files plan.header
      let implementation := rules.make header.files plan.implementation
      (∀ location, (∀ artifact ∈ plan.artifacts, files.target artifact.output ≠ .ok location) →
        generation.files.get? location = files.get? location) ∧
      (∀ error, header.result = .error error →
        generation.failure = some ⟨.create (plan.shown plan.header.output), error⟩ ∧
        (∀ location, files.target plan.implementation.output = .ok location →
          generation.files.get? location = files.get? location) ∧
        rules.BrokenOff plan.header files generation.files error) ∧
      (∀ report error, header.result = .ok report → implementation.result = .error error →
        generation.failure = some ⟨.create (plan.shown plan.implementation.output), error⟩ ∧
        rules.Holds plan.header files generation.files plan.header.sources ∧
        rules.BrokenOff plan.implementation files generation.files error) ∧
      ∀ report report', header.result = .ok report → implementation.result = .ok report' →
        generation.failure = none ∧
        rules.Holds plan.header files generation.files plan.header.sources ∧
        rules.Holds plan.implementation files generation.files plan.implementation.sources := by
  intro generation
  refine ⟨fun failure failed => ?_, fun preparation ready apart keeps => ?_⟩
  · obtain ⟨same, told⟩ := run_of_unprepared failed
    exact ⟨same, told, stage_of_unprepared failed⟩
  intro plan rules header implementation
  obtain ⟨left, told⟩ := run_of_prepared ready
  refine ⟨fun location untouched => ?_, fun error failed => ?_, fun report error done failed => ?_,
    fun report report' done done' => ?_⟩
  · rw [left, get?_makeAll untouched]
  · obtain ⟨stopped, failure⟩ := makeAll_of_error failed [plan.implementation]
    refine ⟨told.trans failure, fun location found => ?_, ?_⟩
    · rw [left.trans stopped]
      exact Rules.get?_make fun target => apart ⟨location, target, FileSystem.locate_of_target found⟩
    · rw [left.trans stopped]
      exact (keeps.makes_header rules).brokenOff failed
  · obtain ⟨first, failure⟩ := makeAll_of_ok done [plan.implementation]
    obtain ⟨second, failure'⟩ := makeAll_of_error failed []
    rw [left.trans (first.trans second)]
    exact ⟨told.trans (failure.trans failure'), keeps.holds_header apart done,
      keeps.brokenOff_implementation failed⟩
  · obtain ⟨first, failure⟩ := makeAll_of_ok done [plan.implementation]
    obtain ⟨second, failure'⟩ := makeAll_of_ok done' []
    rw [left.trans (first.trans second)]
    exact ⟨told.trans (failure.trans failure'), keeps.holds_header apart done, keeps.holds_implementation done'⟩

/-- A package that has the first of its headers only. -/
def oneHeader : FileSystem :=
  ({} : FileSystem).add (Path.ofString "/cmssw/src/CondFormats/BTagObjects/interface/BTagEntry.h").names
    (.file (Bytes.ofString "int a;\nCOND_SERIALIZABLE;\n"))

def oneHeaderRequest : Request where
  environment := []
  home := some (.ofString "/home")
  start := .ofString "/cmssw"
  base := some (.ofString "/cmssw")
  outputDir := some (.ofString "/cmssw")

def stockPreparation : Preparation where
  plan := Plan.ofSettings {} (.ofString "/cmssw") (some (.ofString "/cmssw"))
  rules := Rules.stock

theorem prepared_oneHeader : prepared Pattern.compile oneHeaderRequest oneHeader = .ok stockPreparation := by
  have missing : Settings.discover oneHeader oneHeaderRequest.home oneHeaderRequest.start = .ok none := by
    decide +kernel
  have loaded : (Settings.load oneHeader oneHeaderRequest.home oneHeaderRequest.start none).2 = .ok {} := by
    rw [Settings.load, missing]
  rw [prepared, show oneHeaderRequest.settingsFile = none from rfl, loaded]
  exact rfl

/-- The header artifact is broken off behind the first header. -/
theorem run_frame_oneHeader :
    prepared Pattern.compile oneHeaderRequest oneHeader = .ok stockPreparation ∧
      ¬ oneHeader.Overwrites stockPreparation.plan.header.output stockPreparation.plan.implementation.output ∧
      stockPreparation.plan.KeepsSources oneHeader ∧
      (run Pattern.compile oneHeaderRequest oneHeader).failure =
        some ⟨.create (.ofString "BTagCalibrationStandalone.h"),
          .readSource (.ofString "/cmssw/src/CondFormats/BTagObjects/interface/BTagCalibration.h") .notFound⟩ ∧
      Rules.stock.BrokenOff stockPreparation.plan.header oneHeader
        (run Pattern.compile oneHeaderRequest oneHeader).files
        (.readSource (.ofString "/cmssw/src/CondFormats/BTagObjects/interface/BTagCalibration.h") .notFound) := by
  have apart : ¬ oneHeader.Overwrites stockPreparation.plan.header.output
      stockPreparation.plan.implementation.output := by decide +kernel
  have keeps : stockPreparation.plan.KeepsSources oneHeader := by decide +kernel
  obtain ⟨_, broken, _⟩ := (run_frame Pattern.compile oneHeaderRequest oneHeader).2 _ prepared_oneHeader apart keeps
  obtain ⟨failure, _, broken⟩ := broken _ rfl
  exact ⟨prepared_oneHeader, apart, keeps, failure, broken⟩

end Generation

end Amalgam
