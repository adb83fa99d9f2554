import Amalgam.Generation
import Amalgam.Pattern.Meaning
import Amalgam.Proofs.Acceptance
import Amalgam.Proofs.Components

namespace Amalgam

namespace Path

/-- A relative name says below the directory what an absolute one says. -/
def SaysBelow (directory relative absolute : Path) : Prop :=
  absolute.isAbsolute = true ∧ relative.isAbsolute = false ∧ directory.isAbsolute = true ∧
    absolute.names = directory.names ++ relative.names

/-- Two names lead to one place below the directory. How they begin does not matter if both are put behind
the directory. -/
def Coincide (directory a b : Path) : Prop :=
  (a.names = b.names ∧
    (a.lead = b.lead ∨ a.isAbsolute = false ∧ b.isAbsolute = false ∧ directory.chars ≠ [])) ∨
  directory.SaysBelow a b ∨ directory.SaysBelow b a

variable {directory a b : Path}

theorem join_alike_iff_of_absolute (relative : a.isAbsolute = false) (absolute : b.isAbsolute = true) :
    (directory.join a).Alike b ↔ directory.SaysBelow a b := by
  rw [alike_iff, lead_join relative, names_join relative, isAbsolute_iff.mp absolute, SaysBelow]
  by_cases empty : directory.chars = []
  · have noRoot : directory.isAbsolute = false := by rw [isAbsolute, empty]; rfl
    simp [empty, isRelative_iff.mp relative, noRoot]
  · simp only [empty, if_false, absolute, relative, true_and, isAbsolute_iff, eq_comm (a := b.names)]

/-- Joined to a directory, two names say the same exactly if they lead to one place below it. -/
theorem join_alike_iff : (directory.join a).Alike (directory.join b) ↔ directory.Coincide a b := by
  cases absolute : a.isAbsolute <;> cases absolute' : b.isAbsolute
  · rw [alike_iff, lead_join absolute, lead_join absolute', names_join absolute, names_join absolute',
      List.append_right_inj, and_comm]
    by_cases empty : directory.chars = [] <;> simp [Coincide, SaysBelow, absolute, absolute', empty]
  · have apart : a.lead ≠ b.lead := by
      rw [isAbsolute_iff.mp absolute']
      exact isRelative_iff.mp absolute
    rw [join_of_absolute absolute', join_alike_iff_of_absolute absolute absolute']
    simp [Coincide, SaysBelow, absolute, absolute', apart]
  · have apart : a.lead ≠ b.lead := by
      rw [isAbsolute_iff.mp absolute]
      exact (isRelative_iff.mp absolute').symm
    rw [join_of_absolute absolute, Alike, eq_comm]
    refine (join_alike_iff_of_absolute absolute' absolute).trans ?_
    simp [Coincide, SaysBelow, absolute, absolute', apart]
  · rw [join_of_absolute absolute, join_of_absolute absolute', alike_iff, isAbsolute_iff.mp absolute,
      isAbsolute_iff.mp absolute']
    simp [Coincide, SaysBelow, absolute, absolute', isAbsolute_iff.mp absolute, isAbsolute_iff.mp absolute']

/-- A text without slashes is a single name, unless it says nothing. -/
theorem names_of_notMem {path : Path} (absent : '/' ∉ path.chars) :
    path.names = if Segment.isIdle path.chars = true then [] else [path.chars] := by
  rw [names_eq, Segment.split_of_notMem absent]
  by_cases idle : Segment.isIdle path.chars = true <;> simp [idle]

/-- Without slashes there is only one way to spell a name. -/
theorem eq_of_names_eq (absent : '/' ∉ a.chars) (absent' : '/' ∉ b.chars) (present : a.chars ≠ [])
    (present' : b.chars ≠ []) (same : a.names = b.names) : a = b := by
  have dot : ∀ {chars : List Char}, chars ≠ [] → Segment.isIdle chars = true → chars = ['.'] := by
    intro chars present idle
    simpa [Segment.isIdle, present] using idle
  obtain ⟨chars⟩ := a
  obtain ⟨chars'⟩ := b
  rw [names_of_notMem absent, names_of_notMem absent'] at same
  refine congrArg mk ?_
  split at same <;> split at same
  next idle idle' => exact (dot present idle).trans (dot present' idle').symm
  next => cases same
  next => cases same
  next => exact List.singleton_inj.mp same

theorem isRelative_of_notMem {path : Path} (absent : '/' ∉ path.chars) : path.isAbsolute = false := by
  rw [← Bool.not_eq_true, isAbsolute, beq_iff_eq]
  exact fun head => absent (List.mem_of_mem_head? head)

/-- Names without slashes lead to one place below a directory only if they are the same. -/
theorem Coincide.eq_of_notMem (meet : directory.Coincide a b) (absent : '/' ∉ a.chars) (absent' : '/' ∉ b.chars)
    (present : a.chars ≠ []) (present' : b.chars ≠ []) : a = b := by
  rcases meet with ⟨same, _⟩ | ⟨absolute, _⟩ | ⟨absolute, _⟩
  · exact eq_of_names_eq absent absent' present present' same
  · exact Bool.noConfusion ((isRelative_of_notMem absent').symm.trans absolute)
  · exact Bool.noConfusion ((isRelative_of_notMem absent).symm.trans absolute)

end Path

theorem Settings.toList_ne_nil_of_isBlank {text : String} (named : isBlank text = false) : text.toList ≠ [] := by
  intro empty
  rw [isBlank, empty] at named
  cases named

/-- The directory that the artifacts are written to. -/
def Plan.outputDirectory (settings : Settings) (base : Path) (outputDir : Option Path) : Path :=
  base.join (outputDir.getD settings.outputDir)

/-- The artifacts of accepted settings go to one path exactly if their names lead to one place below the
output directory. Names without slashes never do. -/
theorem Plan.outputs_alike_iff {settings : Settings} (accepted : settings.fault? = none) (base : Path)
    (outputDir : Option Path) :
    let plan := Plan.ofSettings settings base outputDir
    (plan.header.output.Alike plan.implementation.output ↔
      (outputDirectory settings base outputDir).Coincide (.ofString settings.header.output)
        (.ofString settings.implementation.output)) ∧
    ('/' ∉ settings.header.output.toList → '/' ∉ settings.implementation.output.toList →
      ¬ plan.header.output.Alike plan.implementation.output) := by
  refine ⟨Path.join_alike_iff, fun absent absent' alike => ?_⟩
  obtain ⟨_, _, named, named', different, _⟩ := Settings.fault?_eq_none_iff.mp accepted
  have meet := Path.join_alike_iff.mp alike
  have spelled := meet.eq_of_notMem absent absent' (Settings.toList_ne_nil_of_isBlank named)
    (Settings.toList_ne_nil_of_isBlank named')
  exact different (String.toList_inj.mp (Path.mk.inj spelled))

/-- Artifacts whose names differ in nothing but a dot at the end do not meet. -/
def closeNames : Settings where
  header := { output := "Calibration" }
  implementation := { output := "Calibration." }

theorem Plan.outputs_alike_iff_closeNames :
    closeNames.fault? = none ∧
      ¬ (Plan.ofSettings closeNames (.ofString "/cmssw") none).header.output.Alike
        (Plan.ofSettings closeNames (.ofString "/cmssw") none).implementation.output := by
  have accepted : closeNames.fault? = none := by decide
  exact ⟨accepted, (Plan.outputs_alike_iff accepted (.ofString "/cmssw") none).2 (by decide) (by decide)⟩

/-- Both artifacts have one name in two spellings, and neither has any source. -/
def twoSpellings : Settings where
  outputDir := .ofString "out"
  header := { files := [], output := "Calibration.h" }
  implementation := { files := [], output := "./Calibration.h" }

/-- A package with a directory for its artifacts. -/
def emptyPackage : FileSystem where
  entries := [(["cmssw".toList], .directory), (["cmssw".toList, "out".toList], .directory)]

/-- The settings are accepted, and the implementation artifact takes the place of the header artifact. -/
theorem Plan.twoSpellings_overwritten :
    twoSpellings.fault? = none ∧
      (Plan.ofSettings twoSpellings (.ofString "/cmssw") none).header.output.Alike
        (Plan.ofSettings twoSpellings (.ofString "/cmssw") none).implementation.output ∧
      ∃ rules, Rules.ofSettings Pattern.compile twoSpellings = .ok rules ∧
        let plan := Plan.ofSettings twoSpellings (.ofString "/cmssw") none
        let generation := Generation.makeAll ⟨plan, rules⟩ emptyPackage plan.artifacts
        generation.failure = none ∧
          generation.files.read plan.header.output = .ok rules.implementation.preamble :=
  ⟨by decide, by decide, _, rfl, by decide, by rfl⟩

end Amalgam
