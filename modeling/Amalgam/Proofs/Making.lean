import Amalgam.Proofs.Failure
import Amalgam.Proofs.Locations
import Amalgam.Proofs.Warning

namespace Amalgam

/-- Writing to the one path replaces what the other one leads to. -/
def FileSystem.Overwrites (files : FileSystem) (output path : Path) : Prop :=
  ∃ location, files.target output = .ok location ∧ files.locate path = .ok location

instance (files : FileSystem) (output path : Path) : Decidable (files.Overwrites output path) :=
  match found : files.target output with
  | .ok location => decidable_of_iff (files.locate path = .ok location) <| by simp [FileSystem.Overwrites, found]
  | .error _ => .isFalse <| by simp [FileSystem.Overwrites, found]

theorem FileSystem.Overwrites.symm {files : FileSystem} {output path : Path} {location : Location}
    (found : files.target path = .ok location) (overwrites : files.Overwrites output path) :
    files.Overwrites path output := by
  obtain ⟨place, target, meets⟩ := overwrites
  have same : location = place := locate_unique (locate_of_target found) meets
  exact ⟨place, same ▸ found, locate_of_target target⟩

theorem FileSystem.SameDirectories.overwrites_iff {files files' : FileSystem} {output path : Path}
    (same : SameDirectories files files') : files.Overwrites output path ↔ files'.Overwrites output path :=
  exists_congr fun _ => and_congr same.target_eq_ok_iff same.locate_eq_ok_iff

namespace Assembly

variable {State : Type} {rule : Rule State}

/-- The preamble and the files with these contents, each with the separator behind it. -/
def textOf (rule : Rule State) (contents : List Bytes) : Bytes :=
  rule.preamble ++ contents.flatMap fun content => rule.contribution content ++ separator

theorem stepsFrom_congr {read read' : Path → Except IoError Source} {sources : List Path}
    (same : ∀ source ∈ sources, read source = read' source) (written : List Bytes) (before : Report) :
    stepsFrom rule read written before sources = stepsFrom rule read' written before sources := by
  induction sources generalizing written before with
  | nil => rfl
  | cons source sources ih =>
    obtain ⟨first, later⟩ := List.forall_mem_cons.mp same
    simp only [stepsFrom, first, ih later]

theorem assemble_congr {read read' : Path → Except IoError Source} {sources : List Path}
    (same : ∀ source ∈ sources, read source = read' source) (artifact : Path) (room : Option Nat) :
    assemble rule read sources artifact room = assemble rule read' sources artifact room := by
  rw [assemble, assemble, steps, steps, stepsFrom_congr same]

variable {read : Path → Except IoError Bytes}

/-- Either all sources can be read, or there is a first one that cannot. -/
theorem readable_or_broken (read : Path → Except IoError Bytes) (sources : List Path) :
    (∃ contents : List Bytes, sources.map read = contents.map .ok) ∨
      ∃ before source later, ∃ contents : List Bytes, sources = before ++ source :: later ∧
        before.map read = contents.map .ok ∧ ∀ content, read source ≠ .ok content := by
  induction sources with
  | nil => exact Or.inl ⟨[], rfl⟩
  | cons source sources ih =>
    cases found : read source with
    | error cause =>
      refine Or.inr ⟨[], source, sources, [], rfl, rfl, fun content => ?_⟩
      rw [found]
      exact nofun
    | ok content =>
      rcases ih with ⟨contents, all⟩ | ⟨before, broken, later, contents, rfl, all, failed⟩
      · exact Or.inl ⟨content :: contents, by rw [List.map_cons, List.map_cons, found, all]⟩
      · refine Or.inr ⟨source :: before, broken, later, content :: contents, rfl, ?_, failed⟩
        rw [List.map_cons, List.map_cons, found, all]

/-- What can be read is all that matters, not why the rest cannot. -/
theorem contents_congr {read' : Path → Except IoError Bytes} {sources : List Path} {contents : List Bytes}
    (same : ∀ source ∈ sources, ∀ content, read source = .ok content → read' source = .ok content)
    (found : sources.map read = contents.map .ok) : sources.map read' = contents.map .ok := by
  rw [← found]
  refine (List.map_congr_left fun source member => ?_).symm
  have readable : read source ∈ contents.map Except.ok := found ▸ List.mem_map_of_mem member
  obtain ⟨content, _, result⟩ := List.mem_map.mp readable
  rw [← result, same source member content result.symm]

theorem assemble_of_broken (rule : Rule State) (artifact : Path) {before : List Path} {source : Path}
    {contents : List Bytes} {cause : IoError} (found : before.map read = contents.map .ok)
    (failed : read source = .error cause) (later : List Path) :
    (assemble rule (fileSource read) (before ++ source :: later) artifact).written = textOf rule contents ∧
      (assemble rule (fileSource read) (before ++ source :: later) artifact).result =
        .error (.readSource source cause) := by
  have first := assemble_of_contents rule artifact found
  have bounded : assemble rule (fileSource read) before artifact =
      ⟨fullText rule read before, _, _⟩ := assemble_of_hasRoom artifact (hasRoom_none _)
  have text : fullText rule read before = textOf rule contents :=
    congrArg Transcript.written (bounded.symm.trans first)
  have readable := (readable_of_contents found).2
  rw [assemble_of_hasRoom artifact (hasRoom_none _), fullText_append_error failed, verdict,
    unreadable?_append_error failed, readable]
  exact ⟨text, rfl⟩

end Assembly

namespace Rules

open Assembly (textOf fileLog fileSource)

/-- The text of an artifact that is made from files with these contents. -/
def text (rules : Rules) (role : Role) (contents : List Bytes) : Bytes :=
  textOf (rules.ruleFor role) contents

/-- What is counted for files with these contents. -/
def counts (rules : Rules) (role : Role) (contents : List Bytes) : Report :=
  (contents.map (rules.ruleFor role).counts).sum

/-- What is logged for an artifact that is made from these sources with these contents. -/
def log (rules : Rules) (artifact : ArtifactPlan) (contents : List Bytes) : List Event :=
  (artifact.sources.zip contents).flatMap (fun file => fileLog file.1 ((rules.ruleFor artifact.role).counts file.2)) ++
    [.wroteArtifact artifact.output (rules.counts artifact.role contents).files
      (rules.counts artifact.role contents).linesRead]

variable {rules : Rules} {files : FileSystem} {artifact : ArtifactPlan}

/-- Whatever comes of it, making an artifact writes its own file and no other. -/
theorem files_make (rules : Rules) (files : FileSystem) (artifact : ArtifactPlan) :
    ((rules.make files artifact).files = files ∧ ∀ location, files.target artifact.output ≠ .ok location) ∨
      ∃ location content, files.target artifact.output = .ok location ∧
        (rules.make files artifact).files = files.set location (.file content) := by
  unfold make
  cases found : files.target artifact.output with
  | error cause => exact Or.inl ⟨rfl, nofun⟩
  | ok location =>
    simp only [FileSystem.set_set]
    split <;> exact Or.inr ⟨location, _, rfl, rfl⟩

theorem sameDirectories_make (rules : Rules) (files : FileSystem) (artifact : ArtifactPlan) :
    files.SameDirectories (rules.make files artifact).files := by
  rcases files_make rules files artifact with ⟨same, _⟩ | ⟨location, content, found, written⟩
  · rw [same]
    exact .refl files
  · rw [written]
    exact FileSystem.sameDirectories_set (FileSystem.free_of_target found) content

theorem get?_make {location : Location} (apart : files.target artifact.output ≠ .ok location) :
    (rules.make files artifact).files.get? location = files.get? location := by
  rcases files_make rules files artifact with ⟨same, _⟩ | ⟨written, content, found, result⟩
  · rw [same]
  · rw [result]
    refine FileSystem.get?_set_of_ne _ ?_
    rintro rfl
    exact apart found

theorem read_make {path : Path} {content : Bytes} (apart : ¬ files.Overwrites artifact.output path) :
    (rules.make files artifact).files.read path = .ok content ↔ files.read path = .ok content := by
  rw [FileSystem.read_eq_ok_iff, FileSystem.read_eq_ok_iff]
  simp only [← (sameDirectories_make rules files artifact).locate_eq_ok_iff]
  refine exists_congr fun place => and_congr_right fun found => ?_
  rw [get?_make fun target => apart ⟨place, target, found⟩]

/-- All that can come of making an artifact: its file cannot be created, or a source cannot be read when those
before it are in the file already, or all sources are in it. -/
inductive Makes (rules : Rules) (files : FileSystem) (artifact : ArtifactPlan) : Made → Prop
  | refused {cause : IoError} : files.target artifact.output = .error cause →
      Makes rules files artifact ⟨files, [], .error (.writeArtifact artifact.output cause)⟩
  | broken {location : Location} {before later : List Path} {source : Path} {contents : List Bytes}
      {events : List Event} {cause : IoError} : files.target artifact.output = .ok location →
      artifact.sources = before ++ source :: later → before.map files.read = contents.map .ok →
      (∀ content, files.read source ≠ .ok content) →
      Makes rules files artifact ⟨files.set location (.file (rules.text artifact.role contents)), events,
        .error (.readSource source cause)⟩
  | complete {location : Location} {contents : List Bytes} : files.target artifact.output = .ok location →
      artifact.sources.map files.read = contents.map .ok →
      Makes rules files artifact ⟨files.set location (.file (rules.text artifact.role contents)),
        rules.log artifact contents, .ok (rules.counts artifact.role contents)⟩

/-- A file that is being made is a source like any other to the sources that do not lead to it. -/
theorem readBeside_eq {location : Location} {source : Path} (apart : files.locate source ≠ .ok location) :
    readBeside files location source = fileSource files.read source := by
  unfold readBeside fileSource FileSystem.read
  cases found : files.locate source with
  | error cause => rfl
  | ok place =>
    have elsewhere : place ≠ location := by
      rintro rfl
      exact apart found
    simp only [if_neg elsewhere]

theorem makes_of_make (keeps : ∀ source ∈ artifact.sources, ¬ files.Overwrites artifact.output source) :
    rules.Makes files artifact (rules.make files artifact) := by
  unfold make
  cases found : files.target artifact.output with
  | error cause => exact .refused found
  | ok location =>
    have free := FileSystem.free_of_target found
    have apart : ∀ source ∈ artifact.sources, files.locate source ≠ .ok location :=
      fun source member meets => keeps source member ⟨location, found, meets⟩
    -- The file is there while the sources are read, but none of them leads to it.
    have same : ∀ source ∈ artifact.sources, readBeside (files.set location (.file [])) location source =
        fileSource (files.set location (.file [])).read source := fun source member =>
      readBeside_eq ((FileSystem.sameDirectories_set free []).locate_eq_ok_iff.not.mp (apart source member))
    have reads : ∀ source ∈ artifact.sources, ∀ content,
        (files.set location (.file [])).read source = .ok content ↔ files.read source = .ok content :=
      fun source member content => FileSystem.read_set_of_ne free (apart source member)
    have assembled : rules.assemble artifact.role (readBeside (files.set location (.file [])) location)
        artifact.sources artifact.output = Amalgam.assemble (rules.ruleFor artifact.role)
          (fileSource (files.set location (.file [])).read) artifact.sources artifact.output := by
      rw [assemble_eq, Assembly.assemble_congr same]
    simp only [assembled, FileSystem.set_set]
    -- What can be read is settled on the files before, as the writing of the artifact does not change it.
    rcases Assembly.readable_or_broken files.read artifact.sources with
      ⟨contents, all⟩ | ⟨before, source, later, contents, parts, all, failed⟩
    · have found' := Assembly.contents_congr (fun source member content => (reads source member content).mpr) all
      have events := Assembly.assemble_events (rules.ruleFor_answers artifact.role) artifact.output found'
      have whole := Assembly.assemble_of_contents (rules.ruleFor artifact.role) artifact.output found'
      simp only [events, congrArg Transcript.written whole, congrArg Transcript.result whole]
      exact .complete found all
    · have member : source ∈ artifact.sources := by simp [parts]
      have front : ∀ source ∈ before, source ∈ artifact.sources := by
        intro source inside
        simp [parts, inside]
      have all' := Assembly.contents_congr
        (fun source inside content => (reads source (front source inside) content).mpr) all
      cases result : (files.set location (.file [])).read source with
      | ok content => exact absurd ((reads source member content).mp result) (failed content)
      | error cause =>
        obtain ⟨written, verdict⟩ := Assembly.assemble_of_broken (rules.ruleFor artifact.role)
          artifact.output all' result later
        rw [← parts] at written verdict
        simp only [written, verdict]
        exact .broken found parts all failed

theorem Makes.eq_of_ok {made : Made} {report : Report} (makes : rules.Makes files artifact made)
    (done : made.result = .ok report) :
    ∃ location, ∃ contents : List Bytes, files.target artifact.output = .ok location ∧
      artifact.sources.map files.read = contents.map .ok ∧
      made = ⟨files.set location (.file (rules.text artifact.role contents)), rules.log artifact contents,
        .ok (rules.counts artifact.role contents)⟩ := by
  cases makes with
  | refused => cases done
  | broken => cases done
  | complete found all => exact ⟨_, _, found, all, rfl⟩

theorem map_ok_injective : Function.Injective (List.map (Except.ok : Bytes → Except IoError Bytes)) :=
  List.map_injective_iff.mpr fun _ _ => Except.ok.inj

/-- An artifact is complete if its file can be created and all its sources can be read. -/
theorem make_of_contents {location : Location} {contents : List Bytes}
    (keeps : ∀ source ∈ artifact.sources, ¬ files.Overwrites artifact.output source)
    (found : files.target artifact.output = .ok location)
    (all : artifact.sources.map files.read = contents.map .ok) :
    rules.make files artifact = ⟨files.set location (.file (rules.text artifact.role contents)),
      rules.log artifact contents, .ok (rules.counts artifact.role contents)⟩ := by
  have makes : rules.Makes files artifact (rules.make files artifact) := makes_of_make keeps
  generalize rules.make files artifact = made at makes
  cases makes with
  | refused failed =>
    rw [found] at failed
    cases failed
  | @broken _ before later source _ _ _ _ parts _ unreadable =>
    have readable : files.read source ∈ contents.map Except.ok := by
      rw [← all, parts]
      simp
    obtain ⟨content, _, result⟩ := List.mem_map.mp readable
    exact absurd result.symm (unreadable content)
  | complete found' all' =>
    cases Except.ok.inj (found.symm.trans found')
    cases map_ok_injective (all.symm.trans all')
    rfl

end Rules

end Amalgam
