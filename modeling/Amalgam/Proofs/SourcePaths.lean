import Amalgam.Proofs.HeaderInclude
import Amalgam.Proofs.RunFrame

namespace Amalgam

namespace Path

def joined (parts : List Path) : Path :=
  parts.foldl join ⟨[]⟩

/-- The parts that matter: an absolute part sets aside all before it. -/
def relevant : List Path → List Path
  | [] => []
  | part :: parts => if parts.any isAbsolute then relevant parts else part :: parts

/-- How the first part begins that is not empty. -/
def begins : List Path → Lead
  | [] => .none
  | part :: parts => if part.chars = [] then begins parts else part.lead

/-- Joined, both say the same. -/
def SameParts (parts parts' : List Path) : Prop :=
  begins (relevant parts) = begins (relevant parts') ∧
    (relevant parts).flatMap names = (relevant parts').flatMap names

instance (parts parts' : List Path) : Decidable (SameParts parts parts') :=
  inferInstanceAs (Decidable (_ ∧ _))

theorem empty_join (path : Path) : join ⟨[]⟩ path = path := by
  unfold join
  split <;> simp

theorem joined_cons (base : Path) (parts : List Path) : joined (base :: parts) = parts.foldl join base := by
  rw [joined, List.foldl_cons, empty_join]

theorem joined_concat (parts : List Path) (last : Path) : joined (parts ++ [last]) = (joined parts).join last :=
  List.foldl_concat join ⟨[]⟩ last parts

theorem relevant_concat (parts : List Path) (last : Path) :
    relevant (parts ++ [last]) = if last.isAbsolute then [last] else relevant parts ++ [last] := by
  induction parts with
  | nil => cases absolute : last.isAbsolute <;> simp [relevant]
  | cons part parts ih =>
    rw [List.cons_append, relevant, relevant, ih]
    cases absolute : last.isAbsolute with
    | true => simp [absolute]
    | false =>
      have same : (parts ++ [last]).any isAbsolute = parts.any isAbsolute := by simp [absolute]
      rw [same]
      split <;> simp

theorem begins_concat (parts : List Path) (last : Path) :
    begins (parts ++ [last]) = if parts.all (·.chars = []) then last.lead else begins parts := by
  induction parts with
  | nil =>
    by_cases empty : last.chars = []
    · simp [begins, empty, (chars_eq_nil_iff.mp empty).1]
    · simp [begins, empty]
  | cons part parts ih =>
    rw [List.cons_append, begins, begins, ih]
    by_cases empty : part.chars = [] <;> simp [empty]

theorem chars_ne_nil_of_absolute {path : Path} (absolute : path.isAbsolute = true) : path.chars ≠ [] := by
  intro empty
  rw [isAbsolute, empty] at absolute
  cases absolute

theorem isAbsolute_join {directory : Path} (absolute : directory.isAbsolute = true) (path : Path) :
    (directory.join path).isAbsolute = true := by
  cases relative : path.isAbsolute with
  | true => rwa [join_of_absolute relative]
  | false =>
    rw [isAbsolute_iff, lead_join relative, if_neg (chars_ne_nil_of_absolute absolute)]
    exact isAbsolute_iff.mp absolute

/-- All that is joined to an absolute path is absolute. -/
theorem lead_joined_cons {base : Path} (absolute : base.isAbsolute = true) (parts : List Path) :
    (joined (base :: parts)).lead = .root := by
  rw [joined_cons]
  induction parts generalizing base with
  | nil => exact isAbsolute_iff.mp absolute
  | cons part parts ih => exact ih (isAbsolute_join absolute part)

theorem chars_join_eq_nil_iff {a b : Path} (relative : b.isAbsolute = false) :
    (a.join b).chars = [] ↔ a.chars = [] ∧ b.chars = [] := by
  rcases join_cases (a := a) relative with ⟨empty, whole⟩ | ⟨front, slash | ⟨same, present⟩, whole⟩
  · simp [whole, empty]
  · simp [whole, slash]
  · simp [whole, same, present]

theorem chars_joined_eq_nil_iff (parts : List Path) :
    (joined parts).chars = [] ↔ (relevant parts).all (·.chars = []) = true := by
  induction parts using List.reverseRecOn with
  | nil => simp [joined, relevant]
  | append_singleton parts last ih =>
    rw [joined_concat, relevant_concat]
    cases absolute : last.isAbsolute with
    | true => simp [join_of_absolute absolute, chars_ne_nil_of_absolute absolute]
    | false =>
      rw [chars_join_eq_nil_iff absolute, ih]
      simp

theorem names_joined (parts : List Path) : (joined parts).names = (relevant parts).flatMap names := by
  induction parts using List.reverseRecOn with
  | nil => rfl
  | append_singleton parts last ih =>
    rw [joined_concat, relevant_concat]
    cases absolute : last.isAbsolute with
    | true => simp [join_of_absolute absolute]
    | false => simp [names_join absolute, ih]

theorem lead_joined (parts : List Path) : (joined parts).lead = begins (relevant parts) := by
  induction parts using List.reverseRecOn with
  | nil => rfl
  | append_singleton parts last ih =>
    rw [joined_concat, relevant_concat]
    cases absolute : last.isAbsolute with
    | true => simp [join_of_absolute absolute, begins, chars_ne_nil_of_absolute absolute]
    | false =>
      rw [lead_join absolute, if_neg Bool.false_ne_true, begins_concat, ih]
      simp only [chars_joined_eq_nil_iff]

theorem joined_alike_iff {parts parts' : List Path} :
    (joined parts).Alike (joined parts') ↔ SameParts parts parts' := by
  rw [alike_iff, lead_joined, lead_joined, names_joined, names_joined, SameParts]

/-- The last names are there, and they are not the same. -/
def DiffersInName (a b : Path) : Prop :=
  a.names ≠ [] ∧ b.names ≠ [] ∧ a.names.getLast? ≠ b.names.getLast?

instance (a b : Path) : Decidable (a.DiffersInName b) :=
  inferInstanceAs (Decidable (_ ∧ _ ∧ _))

theorem getLast?_names_join (directory : Path) {name : Path} (named : name.names ≠ []) :
    (directory.join name).names.getLast? = name.names.getLast? := by
  cases absolute : name.isAbsolute with
  | true => rw [join_of_absolute absolute]
  | false =>
    rw [names_join absolute, List.getLast?_append, List.getLast?_eq_some_getLast named, Option.some_or]

/-- Names that differ are never joined to paths that say the same, whatever the directories. -/
theorem DiffersInName.not_alike_join {a b : Path} (differs : a.DiffersInName b) (directory directory' : Path) :
    ¬ (directory.join a).Alike (directory'.join b) := by
  obtain ⟨named, named', apart⟩ := differs
  intro alike
  have same := congrArg List.getLast? (alike_iff.mp alike).2
  rw [getLast?_names_join _ named, getLast?_names_join _ named'] at same
  exact apart same

/-- No part of the path leads up. -/
def NeverUp (path : Path) : Prop :=
  ∀ name ∈ path.names, name.isUp = false

instance (path : Path) : Decidable path.NeverUp :=
  inferInstanceAs (Decidable (∀ _ ∈ _, _))

end Path

namespace FileSystem

variable {files : FileSystem} {output path : Path} {location : Location}

theorem locate_eq_append (noUp : path.NeverUp) (found : files.locate path = .ok location) :
    location = files.origin path ++ path.names := by
  rw [(locate_eq_ok_iff.mp found).2.1, Path.names_eq]
  refine Location.follow_eq_append (fun segment member => ?_) _
  by_contra up
  rw [Bool.not_eq_false] at up
  have spelled : segment = ['.', '.'] := eq_of_beq up
  have named : segment ∈ path.names := by
    rw [Path.names_eq]
    exact List.mem_filter.mpr ⟨member, by rw [spelled]; rfl⟩
  exact Bool.noConfusion (up.symm.trans (noUp segment named))

/-- Paths that begin alike and never lead up meet only if they say the same. -/
theorem Overwrites.alike (overwrites : files.Overwrites output path) (same : output.lead = path.lead)
    (noUp : output.NeverUp) (noUp' : path.NeverUp) : output.Alike path := by
  obtain ⟨location, target, found⟩ := overwrites
  have place := locate_eq_append noUp (locate_of_target target)
  have place' := locate_eq_append noUp' found
  have start : files.origin output = files.origin path := by
    have absolute : output.isAbsolute = path.isAbsolute := by
      rw [Bool.eq_iff_iff, Path.isAbsolute_iff, Path.isAbsolute_iff, same]
    rw [origin, origin, absolute]
  rw [start, place'] at place
  exact Path.alike_iff.mpr ⟨same, (List.append_cancel_left place).symm⟩

end FileSystem

namespace Settings

def outputName (settings : Settings) : Role → String
  | .header => settings.header.output
  | .implementation => settings.implementation.output

def subdir (settings : Settings) : Role → Path
  | .header => settings.header.subdir
  | .implementation => settings.implementation.subdir

def sourceNames (settings : Settings) : Role → List String
  | .header => settings.header.files
  | .implementation => settings.implementation.files

/-- What the path of an artifact is joined from. -/
def outputParts (settings : Settings) (base : Path) (outputDir : Option Path) (role : Role) : List Path :=
  [base, outputDir.getD settings.outputDir, .ofString (settings.outputName role)]

/-- What the path of a source is joined from. -/
def sourceParts (settings : Settings) (base : Path) (role : Role) (file : String) : List Path :=
  [base, settings.formatsDir, settings.subdir role, .ofString file]

instance {property : Role → Prop} [DecidablePred property] : Decidable (∀ role, property role) :=
  decidable_of_iff (property .header ∧ property .implementation)
    ⟨fun both role => by cases role; exacts [both.1, both.2], fun every => ⟨every _, every _⟩⟩

/-- No artifact is named as a source is. -/
def NamesApart (settings : Settings) : Prop :=
  ∀ made reader, ∀ file ∈ settings.sourceNames reader,
    (Path.ofString (settings.outputName made)).DiffersInName (.ofString file)

instance (settings : Settings) : Decidable settings.NamesApart :=
  inferInstanceAs (Decidable (∀ made reader, ∀ file ∈ settings.sourceNames reader,
    (Path.ofString (settings.outputName made)).DiffersInName (.ofString file)))

end Settings

namespace Plan

def artifact (plan : Plan) : Role → ArtifactPlan
  | .header => plan.header
  | .implementation => plan.implementation

/-- No artifact has the path of a source. -/
def SourcesApart (plan : Plan) : Prop :=
  ∀ made ∈ plan.artifacts, ∀ reader ∈ plan.artifacts, ∀ source ∈ reader.sources, ¬ made.output.Alike source

instance (plan : Plan) : Decidable plan.SourcesApart :=
  inferInstanceAs (Decidable (∀ made ∈ plan.artifacts, ∀ reader ∈ plan.artifacts, ∀ source ∈ reader.sources,
    ¬ made.output.Alike source))

/-- All paths begin alike, and none leads up. -/
structure Straight (plan : Plan) : Prop where
  begin_alike : ∀ made ∈ plan.artifacts, ∀ reader ∈ plan.artifacts, ∀ source ∈ reader.sources,
    made.output.lead = source.lead
  output_neverUp : ∀ made ∈ plan.artifacts, made.output.NeverUp
  source_neverUp : ∀ reader ∈ plan.artifacts, ∀ source ∈ reader.sources, source.NeverUp

variable {plan : Plan} {settings : Settings} {base : Path} {outputDir : Option Path}

theorem mem_artifacts_iff {planned : ArtifactPlan} :
    planned ∈ plan.artifacts ↔ ∃ role, planned = plan.artifact role := by
  rw [artifacts, List.mem_pair]
  constructor
  · rintro (rfl | rfl)
    · exact ⟨.header, rfl⟩
    · exact ⟨.implementation, rfl⟩
  · rintro ⟨role, rfl⟩
    cases role
    · exact Or.inl rfl
    · exact Or.inr rfl

theorem output_artifact (settings : Settings) (base : Path) (outputDir : Option Path) (role : Role) :
    ((ofSettings settings base outputDir).artifact role).output =
      Path.joined (settings.outputParts base outputDir role) := by
  rw [Settings.outputParts, Path.joined_cons]
  cases role <;> rfl

theorem sources_artifact (settings : Settings) (base : Path) (outputDir : Option Path) (role : Role) :
    ((ofSettings settings base outputDir).artifact role).sources =
      (settings.sourceNames role).map fun file => Path.joined (settings.sourceParts base role file) := by
  simp only [Settings.sourceParts, Path.joined_cons]
  cases role <;> rfl

theorem Straight.keepsSources (straight : plan.Straight) (apart : plan.SourcesApart) (files : FileSystem) :
    plan.KeepsSources files := by
  intro made isMade reader isReader source member overwrites
  have same := straight.begin_alike made isMade reader isReader source member
  have noUp := straight.output_neverUp made isMade
  have noUp' := straight.source_neverUp reader isReader source member
  exact apart made isMade reader isReader source member (overwrites.alike same noUp noUp')

theorem sourcesApart_of_names (apart : settings.NamesApart) (base : Path) (outputDir : Option Path) :
    (ofSettings settings base outputDir).SourcesApart := by
  intro made isMade reader isReader source member
  obtain ⟨role, rfl⟩ := mem_artifacts_iff.mp isMade
  obtain ⟨role', rfl⟩ := mem_artifacts_iff.mp isReader
  rw [sources_artifact] at member
  obtain ⟨file, isFile, rfl⟩ := List.mem_map.mp member
  rw [output_artifact]
  exact (apart role role' file isFile).not_alike_join (Path.joined [base, _]) (Path.joined [base, _, _])

theorem lead_of_absolute (absolute : base.isAbsolute = true) {planned : ArtifactPlan}
    (member : planned ∈ (ofSettings settings base outputDir).artifacts) :
    planned.output.lead = .root ∧ ∀ source ∈ planned.sources, source.lead = .root := by
  obtain ⟨role, rfl⟩ := mem_artifacts_iff.mp member
  rw [output_artifact, sources_artifact, List.forall_mem_map]
  exact ⟨Path.lead_joined_cons absolute _, fun file _ => Path.lead_joined_cons absolute _⟩

/-- An artifact has the path of a source exactly if the parts of both say the same when they are joined. It
never has if the settings name no artifact as they name a source, wherever the directories are. Where none has, a run
leaves all sources as they are, as long as the paths begin alike, as below an absolute base directory, and do not lead
up. -/
theorem output_alike_source_iff (settings : Settings) (base : Path) (outputDir : Option Path) :
    let plan := ofSettings settings base outputDir
    (∀ made reader,
      (∃ source ∈ (plan.artifact reader).sources, (plan.artifact made).output.Alike source) ↔
        ∃ file ∈ settings.sourceNames reader,
          Path.SameParts (settings.outputParts base outputDir made) (settings.sourceParts base reader file)) ∧
    (settings.NamesApart → plan.SourcesApart) ∧
    (base.isAbsolute = true → ∀ planned ∈ plan.artifacts,
      planned.output.lead = .root ∧ ∀ source ∈ planned.sources, source.lead = .root) ∧
    (plan.SourcesApart → plan.Straight → ∀ rules files, ∀ reader ∈ plan.artifacts, ∀ source ∈ reader.sources,
      ∀ content, (Generation.makeAll ⟨plan, rules⟩ files plan.artifacts).files.read source = .ok content ↔
        files.read source = .ok content) := by
  intro plan
  refine ⟨fun made reader => ?_, fun apart => sourcesApart_of_names apart base outputDir,
    fun absolute planned member => lead_of_absolute absolute member, ?_⟩
  · simp only [plan, output_artifact, sources_artifact, List.mem_map, exists_exists_and_eq_and,
      Path.joined_alike_iff]
  · intro apart straight rules files reader isReader source member content
    have keeps := straight.keepsSources apart files
    exact Generation.read_makeAll fun made isMade => keeps made isMade reader isReader source member

/-- The default settings write no source, even if they write to the directory of the headers. -/
theorem output_alike_source_iff_oneHeader :
    let outputDir := some (Path.ofString "src/CondFormats/BTagObjects/interface")
    let plan := ofSettings {} (.ofString "/cmssw") outputDir
    ({} : Settings).NamesApart ∧ plan.SourcesApart ∧ plan.Straight ∧
      (Generation.makeAll ⟨plan, Rules.stock⟩ Generation.oneHeader plan.artifacts).files.read
          (.ofString "/cmssw/src/CondFormats/BTagObjects/interface/BTagEntry.h") =
        .ok (Bytes.ofString "int a;\nCOND_SERIALIZABLE;\n") := by
  intro outputDir plan
  obtain ⟨_, named, _, kept⟩ := output_alike_source_iff {} (.ofString "/cmssw") outputDir
  have apart : ({} : Settings).NamesApart := by decide +kernel
  have straight : plan.Straight := ⟨by decide +kernel, by decide +kernel, by decide +kernel⟩
  have source : Path.ofString "/cmssw/src/CondFormats/BTagObjects/interface/BTagEntry.h" ∈ plan.header.sources := by
    decide +kernel
  have found : Generation.oneHeader.read (.ofString "/cmssw/src/CondFormats/BTagObjects/interface/BTagEntry.h") =
      .ok (Bytes.ofString "int a;\nCOND_SERIALIZABLE;\n") := by decide +kernel
  have kept' := kept (named apart) straight Rules.stock Generation.oneHeader plan.header plan.header_mem
  exact ⟨apart, named apart, straight, (kept' _ source _).mpr found⟩

/-- A package with one header. -/
def smallSource : FileSystem :=
  ({} : FileSystem).add (Path.ofString "/cmssw/pkg/interface/A.h").names (.file (Bytes.ofString "int a;\n"))

/-- The settings are accepted, and a run on the package is successful and empties a header before it is read. -/
def EmptiesHeader (settings : Settings) (base : Path) : Prop :=
  settings.fault? = none ∧ ∃ rules, Rules.ofSettings Pattern.compile settings = .ok rules ∧
    let plan := ofSettings settings base none
    let generation := Generation.makeAll ⟨plan, rules⟩ smallSource plan.artifacts
    generation.failure = none ∧ ∃ source ∈ plan.header.sources,
      smallSource.read source = .ok (Bytes.ofString "int a;\n") ∧
        generation.files.read source = .ok Assembly.separator

/-- The header artifact is named as the header is, and goes to its directory. -/
def sharedName : Settings where
  formatsDir := .ofString "pkg"
  outputDir := .ofString "pkg/interface"
  header := { files := ["A.h"], output := "A.h" }
  implementation := { files := [] }

/-- The same in other words, one way up and down again and the other way from the root. -/
def sharedPlace : Settings :=
  { sharedName with outputDir := .ofString "pkg/../pkg/interface" }

def sharedRoot : Settings :=
  { sharedName with formatsDir := .ofString "/cmssw/pkg" }

/-- An artifact can take the place of a source with the same path, and also with another one. -/
theorem sharedName_overwritten :
    (EmptiesHeader sharedName (.ofString "/cmssw") ∧
      ¬ (ofSettings sharedName (.ofString "/cmssw") none).SourcesApart) ∧
    (EmptiesHeader sharedPlace (.ofString "/cmssw") ∧
      (ofSettings sharedPlace (.ofString "/cmssw") none).SourcesApart) ∧
    (EmptiesHeader sharedRoot (.ofString "cmssw") ∧
      (ofSettings sharedRoot (.ofString "cmssw") none).SourcesApart) := by
  have path : EmptiesHeader sharedName (.ofString "/cmssw") :=
    ⟨by decide, _, rfl, by decide +kernel, _, List.mem_cons_self, by decide +kernel, by decide +kernel⟩
  have place : EmptiesHeader sharedPlace (.ofString "/cmssw") :=
    ⟨by decide, _, rfl, by decide +kernel, _, List.mem_cons_self, by decide +kernel, by decide +kernel⟩
  have root : EmptiesHeader sharedRoot (.ofString "cmssw") :=
    ⟨by decide, _, rfl, by decide +kernel, _, List.mem_cons_self, by decide +kernel, by decide +kernel⟩
  exact ⟨⟨path, by decide +kernel⟩, ⟨place, by decide +kernel⟩, ⟨root, by decide +kernel⟩⟩

end Plan

end Amalgam
