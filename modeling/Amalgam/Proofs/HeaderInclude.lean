import Amalgam.Proofs.Encoding
import Amalgam.Proofs.OutputPaths
import Amalgam.Proofs.Split

namespace Amalgam

/-- The name between the quotes of an include directive. -/
def Filter.quotedName? (line : Bytes) : Option Bytes :=
  (Bytes.dropLead? quotedInclude line).bind fun target =>
    if Ascii.doubleQuote ∈ target then some (target.takeWhile (· != Ascii.doubleQuote)) else none

theorem Filter.quotedName?_append {name : Bytes} (absent : Ascii.doubleQuote ∉ name) (behind : Bytes) :
    quotedName? (quotedInclude ++ (name ++ Ascii.doubleQuote :: behind)) = some name := by
  have opened : quotedInclude.isPrefixOf (quotedInclude ++ (name ++ Ascii.doubleQuote :: behind)) = true :=
    List.isPrefixOf_iff_prefix.mpr (List.prefix_append _ _)
  have present : Ascii.doubleQuote ∈ name ++ Ascii.doubleQuote :: behind := by simp
  have unquoted : ∀ b ∈ name, (b != Ascii.doubleQuote) = true := by
    intro b member
    rw [bne_iff_ne]
    exact fun same => absent (same ▸ member)
  rw [quotedName?, Bytes.dropLead?, if_pos opened, List.drop_left, Option.bind_some, if_pos present,
    List.takeWhile_append_of_pos unquoted, List.takeWhile_cons_of_neg (by simp), List.append_nil]

/-- What the first line of the artifact includes. -/
def Replacement.includedName? (r : Replacement) : Option Path :=
  ((r.preamble.lines.head?.bind Filter.quotedName?).bind Bytes.toString?).map Path.ofString

/-- The include of the header artifact is a line of its own if its name is on one line. -/
theorem Replacement.head?_lines_preamble {r : Replacement} (noBreak : '\n' ∉ r.headerArtifact.toList) :
    r.preamble.lines.head? = some
      (Filter.quotedInclude ++ (Bytes.ofString r.headerArtifact ++ Ascii.doubleQuote :: [Ascii.newline])) := by
  have absent : Ascii.newline ∉ Bytes.ofString r.headerArtifact :=
    Bytes.notMem_ofString (by decide) (by decide) noBreak
  have closing : Bytes.ofString "\"\n" = [Ascii.doubleQuote, Ascii.newline] := by decide
  have start : Ascii.newline ∉ Filter.quotedInclude := by decide
  have quote : Ascii.newline ∉ [Ascii.doubleQuote] := by decide
  have parts : r.preamble =
      (Filter.quotedInclude ++ (Bytes.ofString r.headerArtifact ++ [Ascii.doubleQuote]) ++ [Ascii.newline]) ++
        (r.systemIncludes.map fun header => Bytes.ofString ("#include " ++ header ++ "\n")).flatten := by
    rw [preamble, Bytes.ofString_append, Bytes.ofString_append, closing]
    simp only [Filter.quotedInclude, List.append_assoc, List.cons_append, List.nil_append]
  have inner : Ascii.newline ∉
      (Filter.quotedInclude ++ (Bytes.ofString r.headerArtifact ++ [Ascii.doubleQuote]) ++ [Ascii.newline]).dropLast := by
    rw [List.dropLast_concat, List.mem_append, List.mem_append, not_or, not_or]
    exact ⟨start, absent, quote⟩
  rw [parts, Bytes.lines_append (Bytes.closed_concat _), Bytes.lines_of_inner inner, if_neg (by simp),
    List.singleton_append, List.head?_cons]
  simp only [List.append_assoc, List.singleton_append]

/-- A name without quotes and line breaks is included as it is. -/
theorem Replacement.includedName?_eq {r : Replacement} (noQuote : '"' ∉ r.headerArtifact.toList)
    (noBreak : '\n' ∉ r.headerArtifact.toList) : r.includedName? = some (.ofString r.headerArtifact) := by
  have absent : Ascii.doubleQuote ∉ Bytes.ofString r.headerArtifact :=
    Bytes.notMem_ofString (by decide) (by decide) noQuote
  rw [includedName?, head?_lines_preamble noBreak, Option.bind_some, Filter.quotedName?_append absent,
    Option.bind_some, Bytes.toString?_ofString, Option.map_some]

namespace Path

/-- The path says at most that it is here. -/
def IsHere (path : Path) : Prop :=
  path.lead ≠ .root ∧ path.names = []

/-- A path of one name, which nothing comes before. -/
def IsFileName (path : Path) : Prop :=
  path.lead = .none ∧ ∃ name, path.names = [name]

variable {directory parent name file : Path}

theorem IsHere.lead_eq {path : Path} (here : path.IsHere) (present : path.chars ≠ []) : path.lead = .here := by
  cases begins : path.lead with
  | none => exact absurd (chars_eq_nil_iff.mpr ⟨begins, here.2⟩) present
  | root => exact absurd begins here.1
  | here => rfl

theorem isHere_of_chars_nil {path : Path} (empty : path.chars = []) : path.IsHere := by
  obtain ⟨none, names⟩ := chars_eq_nil_iff.mp empty
  exact ⟨by rw [none]; decide, names⟩

theorem IsHere.lead_join (here : directory.IsHere) (dot : name.lead = .here) :
    (directory.join name).lead = .here := by
  have relative : name.isAbsolute = false := isRelative_iff.mpr (by rw [dot]; decide)
  rw [Path.lead_join relative]
  split
  next => exact dot
  next present => exact here.lead_eq present

/-- A name begins in a directory as it does in the empty path only if it begins with a dot there. -/
theorem isHere_of_lead_join (relative : name.isAbsolute = false) (empty : parent.chars = [])
    (begins : (parent.join name).lead = (directory.join name).lead) (same : parent.names = directory.names)
    (apart : parent.lead ≠ directory.lead) : name.lead = .here ∧ parent.IsHere ∧ directory.IsHere := by
  obtain ⟨noLead, noNames⟩ := chars_eq_nil_iff.mp empty
  have present : directory.chars ≠ [] := by
    intro empty'
    exact apart (noLead.trans (chars_eq_nil_iff.mp empty').1.symm)
  rw [Path.lead_join relative, Path.lead_join relative, if_pos empty, if_neg present] at begins
  have here : directory.IsHere := ⟨begins ▸ isRelative_iff.mp relative, same.symm.trans noNames⟩
  exact ⟨begins.trans (here.lead_eq present), isHere_of_chars_nil empty, here⟩

/-- One name leads to the same place from two directories exactly if they are the same, or the name does
not depend on where it is looked up. -/
theorem join_name_alike_iff : (parent.join name).Alike (directory.join name) ↔
    name.isAbsolute = true ∨ parent.Alike directory ∨
      name.lead = .here ∧ parent.IsHere ∧ directory.IsHere := by
  cases relative : name.isAbsolute
  · rw [alike_iff, names_join relative, names_join relative, List.append_left_inj, alike_iff]
    constructor
    · rintro ⟨begins, same⟩
      by_cases apart : parent.lead = directory.lead
      · exact Or.inr (Or.inl ⟨apart, same⟩)
      refine Or.inr (Or.inr ?_)
      by_cases empty : parent.chars = []
      · exact isHere_of_lead_join relative empty begins same apart
      by_cases empty' : directory.chars = []
      · obtain ⟨dot, here, here'⟩ :=
          isHere_of_lead_join relative empty' begins.symm same.symm (Ne.symm apart)
        exact ⟨dot, here', here⟩
      · rw [lead_join relative, lead_join relative, if_neg empty, if_neg empty'] at begins
        exact absurd begins apart
    · rintro (absolute | ⟨begins, same⟩ | ⟨dot, here, here'⟩)
      · cases absolute
      · have empty : parent.chars = [] ↔ directory.chars = [] := by
          rw [chars_eq_nil_iff, chars_eq_nil_iff, begins, same]
        refine ⟨?_, same⟩
        simp only [lead_join relative, begins, empty]
      · exact ⟨(here.lead_join dot).trans (here'.lead_join dot).symm, here.2.trans here'.2.symm⟩
  · simp [join_of_absolute relative, Alike]

theorem parent?_join_fileName (directory : Path) (fileName : file.IsFileName) :
    ∃ parent, (directory.join file).parent? = some parent ∧ parent.Alike directory := by
  obtain ⟨noLead, name, names⟩ := fileName
  have relative : file.isAbsolute = false := isRelative_iff.mpr (by rw [noLead]; decide)
  have joined := names_join (a := directory) relative
  rw [names] at joined
  have named : (directory.join file).names ≠ [] := by simp [joined]
  obtain ⟨parent, found⟩ := parent?_isSome named
  refine ⟨parent, found, alike_iff.mpr ?_⟩
  rcases parent?_eq_some found with ⟨_, lead, before⟩ | ⟨none, _⟩
  · rw [lead, before, joined, List.dropLast_concat, lead_join relative, noLead]
    split
    next empty => exact ⟨(chars_eq_nil_iff.mp empty).1.symm, rfl⟩
    next => exact ⟨rfl, rfl⟩
  · exact absurd none named

end Path

/-- Where the include of the implementation artifact leads. -/
def Plan.includeTarget? (plan : Plan) (rules : Rules) : Option Path := do
  let name ← rules.implementation.includedName?
  let directory ← plan.implementation.output.parent?
  return directory.join name

theorem Rules.headerArtifact_of_ofSettings {compile : PatternCompiler} {settings : Settings} {rules : Rules}
    (compiled : ofSettings compile settings = .ok rules) :
    rules.implementation.headerArtifact = settings.header.output := by
  unfold ofSettings replacement at compiled
  split at compiled
  · cases compiled
  · split at compiled
    · cases compiled
    next made =>
      cases compiled
      split at made
      · cases made
      · cases made
        rfl

/-- The implementation artifact includes the header artifact by its name as it stands. The include leads to the
header artifact exactly if the implementation artifact is in the output directory itself, or the name of the header
artifact does not depend on that. It does for every implementation artifact whose name is that of a file. -/
theorem Plan.include_leads_to_header_iff {compile : PatternCompiler} {settings : Settings} {rules : Rules}
    (compiled : Rules.ofSettings compile settings = .ok rules) (noQuote : '"' ∉ settings.header.output.toList)
    (noBreak : '\n' ∉ settings.header.output.toList) (base : Path) (outputDir : Option Path) :
    let plan := Plan.ofSettings settings base outputDir
    let directory := outputDirectory settings base outputDir
    let name := Path.ofString settings.header.output
    rules.implementation.includedName? = some name ∧
    ((∃ target, plan.includeTarget? rules = some target ∧ target.Alike plan.header.output) ↔
      ∃ parent, plan.implementation.output.parent? = some parent ∧
        (name.isAbsolute = true ∨ parent.Alike directory ∨
          name.lead = .here ∧ parent.IsHere ∧ directory.IsHere)) ∧
    ((Path.ofString settings.implementation.output).IsFileName →
      ∃ target, plan.includeTarget? rules = some target ∧ target.Alike plan.header.output) := by
  intro plan directory name
  have artifact := Rules.headerArtifact_of_ofSettings compiled
  rw [← artifact] at noQuote noBreak
  have included : rules.implementation.includedName? = some name := by
    rw [Replacement.includedName?_eq noQuote noBreak, artifact]
  have target : plan.includeTarget? rules = plan.implementation.output.parent?.map (·.join name) := by
    rw [includeTarget?, included]
    cases plan.implementation.output.parent? <;> rfl
  have leads : (∃ target, plan.includeTarget? rules = some target ∧ target.Alike plan.header.output) ↔
      ∃ parent, plan.implementation.output.parent? = some parent ∧
        (name.isAbsolute = true ∨ parent.Alike directory ∨
          name.lead = .here ∧ parent.IsHere ∧ directory.IsHere) := by
    rw [target]
    constructor
    · rintro ⟨_, found, alike⟩
      obtain ⟨parent, found', rfl⟩ := Option.map_eq_some_iff.mp found
      exact ⟨parent, found', Path.join_name_alike_iff.mp alike⟩
    · rintro ⟨parent, found, agree⟩
      exact ⟨_, Option.map_eq_some_iff.mpr ⟨parent, found, rfl⟩, Path.join_name_alike_iff.mpr agree⟩
  refine ⟨included, leads, fun fileName => leads.mpr ?_⟩
  obtain ⟨parent, found, alike⟩ := Path.parent?_join_fileName directory fileName
  exact ⟨parent, found, Or.inr (Or.inl alike)⟩

/-- The header artifact goes to a directory of its own below that of the implementation artifact. -/
def nestedHeader : Settings where
  header := { output := "include/Calibration.h" }
  implementation := { output := "Calibration.cc" }

theorem Plan.include_leads_to_header_iff_nestedHeader :
    nestedHeader.fault? = none ∧ ∃ rules, Rules.ofSettings Pattern.compile nestedHeader = .ok rules ∧
      '"' ∉ nestedHeader.header.output.toList ∧ '\n' ∉ nestedHeader.header.output.toList ∧
      ∃ target, (Plan.ofSettings nestedHeader (.ofString "/cmssw") none).includeTarget? rules = some target ∧
        target.Alike (Plan.ofSettings nestedHeader (.ofString "/cmssw") none).header.output := by
  have compiled : ∃ rules, Rules.ofSettings Pattern.compile nestedHeader = .ok rules := ⟨_, rfl⟩
  obtain ⟨rules, compiled⟩ := compiled
  have fileName : (Path.ofString nestedHeader.implementation.output).IsFileName :=
    ⟨by decide, "Calibration.cc".toList, by decide⟩
  exact ⟨by decide, rules, compiled, by decide, by decide,
    (Plan.include_leads_to_header_iff compiled (by decide) (by decide) (.ofString "/cmssw") none).2.2 fileName⟩

/-- The implementation artifact goes to a directory of its own below that of the header artifact. -/
def nestedImplementation : Settings where
  header := { output := "Calibration.h" }
  implementation := { output := "src/Calibration.cc" }

/-- The name of the header artifact has a quote in it. -/
def quotedHeader : Settings where
  header := { output := "Calibration\"s.h" }
  implementation := { output := "Calibration.cc" }

/-- The name of the header artifact goes over two lines. -/
def brokenHeader : Settings where
  header := { output := "Calibration\n.h" }
  implementation := { output := "Calibration.cc" }

/-- The settings are accepted, and the include leads from the directory of the implementation artifact to a
place where there is no header artifact. So it does if a quote ends the name, and a name that goes over two
lines is no include at all. -/
theorem Plan.nestedImplementation_misses_header :
    (nestedImplementation.fault? = none ∧
      ∃ rules target, Rules.ofSettings Pattern.compile nestedImplementation = .ok rules ∧
        (Plan.ofSettings nestedImplementation (.ofString "/cmssw") (some (.ofString "out"))).includeTarget? rules =
          some target ∧
        target = .ofString "/cmssw/out/src/Calibration.h" ∧
        ¬ target.Alike
          (Plan.ofSettings nestedImplementation (.ofString "/cmssw") (some (.ofString "out"))).header.output) ∧
    (quotedHeader.fault? = none ∧
      ∃ rules target, Rules.ofSettings Pattern.compile quotedHeader = .ok rules ∧
        (Plan.ofSettings quotedHeader (.ofString "/cmssw") (some (.ofString "out"))).includeTarget? rules =
          some target ∧
        target = .ofString "/cmssw/out/Calibration" ∧
        ¬ target.Alike
          (Plan.ofSettings quotedHeader (.ofString "/cmssw") (some (.ofString "out"))).header.output) ∧
    brokenHeader.fault? = none ∧
      ∃ rules, Rules.ofSettings Pattern.compile brokenHeader = .ok rules ∧
        (Plan.ofSettings brokenHeader (.ofString "/cmssw") (some (.ofString "out"))).includeTarget? rules = none := by
  refine ⟨⟨by decide, _, _, rfl, rfl, ?_, ?_⟩, ⟨by decide, _, _, rfl, rfl, ?_, ?_⟩, by decide, _, rfl, rfl⟩ <;> decide

end Amalgam
