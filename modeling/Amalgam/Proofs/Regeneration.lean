import Amalgam.Proofs.RunFrame

namespace Amalgam

theorem Plan.KeepsSources.of_sameDirectories {plan : Plan} {files files' : FileSystem}
    (same : files.SameDirectories files') (keeps : plan.KeepsSources files) : plan.KeepsSources files' :=
  fun made isMade reader isReader source member =>
    same.overwrites_iff.not.mp (keeps made isMade reader isReader source member)

namespace Generation

variable {preparation : Preparation} {files files' : FileSystem}

/-- What is told of an artifact that is made from sources with these contents. -/
def told (preparation : Preparation) (artifact : ArtifactPlan) (contents : List Bytes) : List Progress :=
  .creating (preparation.plan.shown artifact.output) ::
    (preparation.rules.log artifact contents).map .log ++
      [.created artifact.role (preparation.plan.shown artifact.output)
        (preparation.rules.counts artifact.role contents)]

/-- The artifacts are made at these places from sources with these contents. -/
structure Makeable (preparation : Preparation) (files : FileSystem) (header implementation : Location)
    (headers implementations : List Bytes) : Prop where
  header : files.target preparation.plan.header.output = .ok header
  implementation : files.target preparation.plan.implementation.output = .ok implementation
  headers : preparation.plan.header.sources.map files.read = headers.map .ok
  implementations : preparation.plan.implementation.sources.map files.read = implementations.map .ok

/-- What is left when both artifacts are made. -/
def completed (preparation : Preparation) (files : FileSystem) (header implementation : Location)
    (headers implementations : List Bytes) : Generation where
  files := (files.set header (.file (preparation.rules.text preparation.plan.header.role headers))).set implementation
    (.file (preparation.rules.text preparation.plan.implementation.role implementations))
  progress := told preparation preparation.plan.header headers ++
    told preparation preparation.plan.implementation implementations
  failure := none

variable {header implementation : Location} {headers implementations : List Bytes}

/-- A run that is successful has found all it needs. -/
theorem Makeable.of_done (keeps : preparation.plan.KeepsSources files)
    (done : (makeAll preparation files preparation.plan.artifacts).failure = none) :
    ∃ header implementation headers implementations,
      Makeable preparation files header implementation headers implementations := by
  cases first : (preparation.rules.make files preparation.plan.header).result with
  | error error =>
    have stopped := (makeAll_of_error first [preparation.plan.implementation]).2
    cases stopped.symm.trans done
  | ok report =>
    have next := (makeAll_of_ok first [preparation.plan.implementation]).2
    cases second : (preparation.rules.make (preparation.rules.make files preparation.plan.header).files
        preparation.plan.implementation).result with
    | error error =>
      have stopped := next.trans (makeAll_of_error second []).2
      cases stopped.symm.trans done
    | ok report' =>
      have same := preparation.rules.sameDirectories_make files preparation.plan.header
      obtain ⟨header, headers, found, all, _⟩ := (keeps.makes_header preparation.rules).eq_of_ok first
      obtain ⟨implementation, implementations, found', all', _⟩ :=
        (keeps.makes_implementation preparation.rules).eq_of_ok second
      exact ⟨header, implementation, headers, implementations, found, same.target_eq_ok_iff.mpr found', all,
        Assembly.contents_congr
          (fun source member content => (keeps.read_iff preparation.rules source member content).mp) all'⟩

theorem Makeable.makeAll_eq (keeps : preparation.plan.KeepsSources files)
    (makeable : Makeable preparation files header implementation headers implementations) :
    makeAll preparation files preparation.plan.artifacts =
      completed preparation files header implementation headers implementations := by
  have same := preparation.rules.sameDirectories_make files preparation.plan.header
  have first : preparation.rules.make files preparation.plan.header = _ :=
    Rules.make_of_contents (keeps _ (Plan.header_mem _) _ (Plan.header_mem _)) makeable.header makeable.headers
  have second : preparation.rules.make (preparation.rules.make files preparation.plan.header).files
      preparation.plan.implementation = _ :=
    Rules.make_of_contents
      (fun source member => same.overwrites_iff.not.mp
        (keeps _ (Plan.implementation_mem _) _ (Plan.implementation_mem _) source member))
      (same.target_eq_ok_iff.mp makeable.implementation)
      (Assembly.contents_congr
        (fun source member content => (keeps.read_iff preparation.rules source member content).mpr)
        makeable.implementations)
  rw [first] at second
  simp only [Plan.artifacts, makeAll, first, second, completed, told, List.append_assoc, List.cons_append,
    List.nil_append]

section Completed

variable (makeable : Makeable preparation files header implementation headers implementations)
include makeable

theorem Makeable.free_header : files.get? header ≠ some .directory :=
  FileSystem.free_of_target makeable.header

theorem Makeable.free_implementation (content : Bytes) :
    (files.set header (.file content)).get? implementation ≠ some .directory := by
  have same := FileSystem.sameDirectories_set makeable.free_header content
  exact FileSystem.free_of_target (same.target_eq_ok_iff.mp makeable.implementation)

theorem Makeable.sameDirectories : files.SameDirectories
    (completed preparation files header implementation headers implementations).files :=
  (FileSystem.sameDirectories_set makeable.free_header _).trans
    (FileSystem.sameDirectories_set (makeable.free_implementation _) _)

theorem Makeable.read_iff (keeps : preparation.plan.KeepsSources files) {reader : ArtifactPlan}
    (isReader : reader ∈ preparation.plan.artifacts) {source : Path} (member : source ∈ reader.sources)
    (content : Bytes) :
    (completed preparation files header implementation headers implementations).files.read source = .ok content ↔
      files.read source = .ok content := by
  have apart : files.locate source ≠ .ok header := fun found =>
    keeps _ (Plan.header_mem _) reader isReader source member ⟨header, makeable.header, found⟩
  have apart' : files.locate source ≠ .ok implementation := fun found =>
    keeps _ (Plan.implementation_mem _) reader isReader source member
      ⟨implementation, makeable.implementation, found⟩
  have same := FileSystem.sameDirectories_set makeable.free_header
    (preparation.rules.text preparation.plan.header.role headers)
  exact (FileSystem.read_set_of_ne (makeable.free_implementation _) (same.locate_eq_ok_iff.not.mp apart')).trans
    (FileSystem.read_set_of_ne makeable.free_header apart)

theorem Makeable.again (keeps : preparation.plan.KeepsSources files) : Makeable preparation
    (completed preparation files header implementation headers implementations).files header implementation headers
    implementations where
  header := makeable.sameDirectories.target_eq_ok_iff.mp makeable.header
  implementation := makeable.sameDirectories.target_eq_ok_iff.mp makeable.implementation
  headers := Assembly.contents_congr
    (fun _ member content => (makeable.read_iff keeps (Plan.header_mem _) member content).mpr) makeable.headers
  implementations := Assembly.contents_congr
    (fun _ member content => (makeable.read_iff keeps (Plan.implementation_mem _) member content).mpr)
    makeable.implementations

/-- The header artifact, before the implementation artifact is made. -/
theorem Makeable.read_made (keeps : preparation.plan.KeepsSources files) :
    (preparation.rules.make files preparation.plan.header).files.read preparation.plan.header.output =
      .ok (preparation.rules.text preparation.plan.header.role headers) := by
  have made : preparation.rules.make files preparation.plan.header = _ :=
    Rules.make_of_contents (keeps _ (Plan.header_mem _) _ (Plan.header_mem _)) makeable.header makeable.headers
  rw [made]
  exact FileSystem.read_target makeable.header

theorem Makeable.read_implementation :
    (completed preparation files header implementation headers implementations).files.read
        preparation.plan.implementation.output =
      .ok (preparation.rules.text preparation.plan.implementation.role implementations) := by
  have same := FileSystem.sameDirectories_set makeable.free_header
    (preparation.rules.text preparation.plan.header.role headers)
  exact FileSystem.read_target (same.target_eq_ok_iff.mp makeable.implementation)

/-- The header artifact is there at the end, unless the implementation artifact has taken its place. -/
theorem Makeable.read_header :
    (completed preparation files header implementation headers implementations).files.read
        preparation.plan.header.output =
      .ok (if header = implementation then
        preparation.rules.text preparation.plan.implementation.role implementations
      else preparation.rules.text preparation.plan.header.role headers) := by
  have place := FileSystem.locate_of_target makeable.header
  refine FileSystem.read_eq_ok_iff.mpr ⟨header, makeable.sameDirectories.locate_eq_ok_iff.mp place, ?_⟩
  have inner := FileSystem.inner_of_not_directory makeable.free_header
  by_cases meet : header = implementation
  · rw [if_pos meet, completed, ← meet, FileSystem.get?_set_self _ inner]
  · rw [if_neg meet, completed, FileSystem.get?_set_of_ne _ meet, FileSystem.get?_set_self _ inner]

end Completed

/-- Two runs that find the same in all sources make the same artifacts and tell the same, whatever else there
is. If both start from the same directory, the same is left at their end. A run that succeeds succeeds again on what it
has left, and leaves that as it is. -/
theorem makeAll_reproducible (keeps : preparation.plan.KeepsSources files)
    (keeps' : preparation.plan.KeepsSources files')
    (agree : ∀ artifact ∈ preparation.plan.artifacts, ∀ source ∈ artifact.sources,
      files.read source = files'.read source)
    (done : (makeAll preparation files preparation.plan.artifacts).failure = none)
    (done' : (makeAll preparation files' preparation.plan.artifacts).failure = none) :
    let plan := preparation.plan
    let rules := preparation.rules
    let generation := makeAll preparation files plan.artifacts
    let generation' := makeAll preparation files' plan.artifacts
    (∃ header implementation,
      (rules.make files plan.header).files.read plan.header.output = .ok header ∧
      (rules.make files' plan.header).files.read plan.header.output = .ok header ∧
      generation.files.read plan.implementation.output = .ok implementation ∧
      generation'.files.read plan.implementation.output = .ok implementation) ∧
    generation.progress = generation'.progress ∧
    (files.workingDirectory = files'.workingDirectory →
      generation.files.read plan.header.output = generation'.files.read plan.header.output) ∧
    makeAll preparation generation.files plan.artifacts = generation := by
  intro plan rules generation generation'
  -- Runs that are complete are determined by the contents of their sources.
  obtain ⟨header, implementation, headers, implementations, makeable⟩ := Makeable.of_done keeps done
  obtain ⟨header', implementation', headers', implementations', makeable'⟩ := Makeable.of_done keeps' done'
  have sameHeaders : headers = headers' := by
    have contents := makeable.headers
    rw [List.map_congr_left (agree _ plan.header_mem)] at contents
    exact Rules.map_ok_injective (contents.symm.trans makeable'.headers)
  have sameImplementations : implementations = implementations' := by
    have contents := makeable.implementations
    rw [List.map_congr_left (agree _ plan.implementation_mem)] at contents
    exact Rules.map_ok_injective (contents.symm.trans makeable'.implementations)
  subst sameHeaders sameImplementations
  have result : generation = completed preparation files header implementation headers implementations :=
    makeable.makeAll_eq keeps
  have result' : generation' = completed preparation files' header' implementation' headers implementations :=
    makeable'.makeAll_eq keeps'
  rw [result, result']
  refine ⟨⟨_, _, makeable.read_made keeps, makeable'.read_made keeps', makeable.read_implementation,
    makeable'.read_implementation⟩, rfl, fun start => ?_, ?_⟩
  · have place := FileSystem.locate_eq_of_start start (FileSystem.locate_of_target makeable.header)
      (FileSystem.locate_of_target makeable'.header)
    have place' := FileSystem.locate_eq_of_start start (FileSystem.locate_of_target makeable.implementation)
      (FileSystem.locate_of_target makeable'.implementation)
    -- So the artifacts have one place in both runs or in neither.
    rw [makeable.read_header, makeable'.read_header, place, place']
  · have kept := keeps.of_sameDirectories makeable.sameDirectories
    rw [(makeable.again keeps).makeAll_eq kept, completed, completed, FileSystem.set_pair_again]

/-- A header and an implementation file, beside what an earlier run has left of its header artifact. -/
def smallPackage (stale : String) : FileSystem :=
  let header := ({} : FileSystem).add (Path.ofString "/pkg/A.h").names
    (.file (Bytes.ofString "#include <map>\nint a;\n"))
  let sources := header.add (Path.ofString "/pkg/A.cc").names
    (.file (Bytes.ofString "#include \"pkg/A.h\"\nint a;\n"))
  sources.add (Path.ofString "/A.h").names (.file (Bytes.ofString stale))

def smallPreparation : Preparation where
  plan := {
    base := .ofString "/"
    header := { role := .header, sources := [.ofString "/pkg/A.h"], output := .ofString "/A.h" }
    implementation := { role := .implementation, sources := [.ofString "/pkg/A.cc"], output := .ofString "/A.cc" } }
  rules := Rules.stock

/-- What was left by earlier runs makes no difference. -/
theorem makeAll_reproducible_smallPackage :
    let plan := smallPreparation.plan
    let generation := makeAll smallPreparation (smallPackage "int old;") plan.artifacts
    let generation' := makeAll smallPreparation (smallPackage "") plan.artifacts
    plan.KeepsSources (smallPackage "int old;") ∧ plan.KeepsSources (smallPackage "") ∧
      (∀ artifact ∈ plan.artifacts, ∀ source ∈ artifact.sources,
        (smallPackage "int old;").read source = (smallPackage "").read source) ∧
      generation.failure = none ∧ generation'.failure = none ∧
      generation.files.read plan.header.output = generation'.files.read plan.header.output ∧
      generation.progress = generation'.progress ∧
      makeAll smallPreparation generation.files plan.artifacts = generation := by
  intro plan generation generation'
  have keeps : plan.KeepsSources (smallPackage "int old;") := by decide +kernel
  have keeps' : plan.KeepsSources (smallPackage "") := by decide +kernel
  have agree : ∀ artifact ∈ plan.artifacts, ∀ source ∈ artifact.sources,
      (smallPackage "int old;").read source = (smallPackage "").read source := by decide +kernel
  have done : generation.failure = none := by decide +kernel
  have done' : generation'.failure = none := by decide +kernel
  obtain ⟨_, told, header, again⟩ := makeAll_reproducible keeps keeps' agree done done'
  exact ⟨keeps, keeps', agree, done, done', header rfl, told, again⟩

end Generation

end Amalgam
