import Mathlib.Logic.Basic
import Amalgam.Generation
import Amalgam.Pattern.Meaning

namespace Amalgam

namespace Filter

/-- Patterns are compiled up to the first one that is not well-formed. -/
theorem compilePatterns_eq (compile : PatternCompiler) (patterns : List String) :
    compilePatterns compile patterns =
      match patterns.find? fun pattern => (compile pattern).isNone with
      | some pattern => .error pattern
      | none => .ok (patterns.filterMap compile) := by
  induction patterns with
  | nil => rfl
  | cons pattern patterns ih =>
    cases compiled : compile pattern with
    | none => simp [compilePatterns, compiled]
    | some test =>
      simp only [compilePatterns, compiled, ih, List.find?_cons, Option.isNone_some, List.filterMap_cons]
      cases patterns.find? fun pattern => (compile pattern).isNone <;> rfl

end Filter

namespace Settings

variable {settings : Settings}

theorem fault?_eq_none_iff : settings.fault? = none ↔
    (∀ file ∈ settings.header.files, isBlank file = false) ∧
    (∀ file ∈ settings.implementation.files, isBlank file = false) ∧
    isBlank settings.header.output = false ∧ isBlank settings.implementation.output = false ∧
    settings.header.output ≠ settings.implementation.output ∧
    settings.implementation.throwPattern ≠ "" ∧ settings.implementation.diagnostic ≠ "" ∧
    ¬ (settings.implementation.terminator = .lineOffset ∧ settings.implementation.terminatorOffset = 0) := by
  simp only [fault?, ite_eq_iff, reduceCtorEq, and_false, false_or, and_true, List.any_eq_true, not_exists,
    not_and, Bool.not_eq_true, String.isEmpty_iff, ne_eq]

theorem parse_eq_ok_iff {path : Path} {text : String} :
    parse path text = .ok settings ↔ (Toml.parse? text).bind ofEntries? = some settings ∧ settings.fault? = none := by
  unfold parse
  cases decoded : (Toml.parse? text).bind ofEntries? with
  | none => simp
  | some found =>
    cases faulty : found.fault? with
    | none =>
      simp only [faulty, Except.ok.injEq, Option.some.injEq, iff_self_and]
      rintro rfl
      exact faulty
    | some fault =>
      simp only [faulty, reduceCtorEq, Option.some.injEq, false_iff, not_and]
      rintro rfl
      simp [faulty]

/-- All patterns in the order in which they are compiled. -/
def dropPatterns (settings : Settings) : List String :=
  settings.header.dropPatterns ++ settings.implementation.dropPatterns

/-- The same settings with other patterns. -/
def withPatterns (settings : Settings) (header implementation : List String) : Settings :=
  { settings with
    header := { settings.header with dropPatterns := header }
    implementation := { settings.implementation with dropPatterns := implementation } }

/-- The checks do not look at the patterns. -/
theorem fault?_withPatterns (settings : Settings) (header implementation : List String) :
    (settings.withPatterns header implementation).fault? = settings.fault? := rfl

/-- The first pattern that is not well-formed. -/
def brokenPattern? (compile : PatternCompiler) (settings : Settings) : Option String :=
  settings.dropPatterns.find? fun pattern => (compile pattern).isNone

end Settings

namespace Rules

variable {compile : PatternCompiler} {settings : Settings}

/-- The rules are compiled up to the first pattern that is not well-formed. -/
theorem ofSettings_of_broken {pattern : String} (broken : settings.brokenPattern? compile = some pattern) :
    ofSettings compile settings = .error (.invalidPattern pattern) := by
  rw [Settings.brokenPattern?, Settings.dropPatterns, List.find?_append] at broken
  unfold ofSettings headerFilter replacement
  rw [Filter.compilePatterns_eq, Filter.compilePatterns_eq]
  cases inHeader : settings.header.dropPatterns.find? fun pattern => (compile pattern).isNone with
  | some first =>
    rw [inHeader, Option.some_or] at broken
    cases broken
    rfl
  | none =>
    rw [inHeader, Option.none_or] at broken
    rw [broken]

theorem ofSettings_of_wellFormed (wellFormed : settings.brokenPattern? compile = none) :
    ∃ rules, ofSettings compile settings = .ok rules := by
  rw [Settings.brokenPattern?, Settings.dropPatterns, List.find?_append, Option.or_eq_none_iff] at wellFormed
  unfold ofSettings headerFilter replacement
  rw [Filter.compilePatterns_eq, Filter.compilePatterns_eq, wellFormed.1, wellFormed.2]
  exact ⟨_, rfl⟩

/-- The rules of settings that have been loaded are compiled exactly if all patterns are well-formed. If
one is not, the first such pattern is told and the run ends. Loading does not look at the patterns: with
any others, the settings would have been accepted, too. -/
theorem ofSettings_of_loaded {path : Path} {text : String} (loaded : Settings.parse path text = .ok settings) :
    ((∃ rules, ofSettings compile settings = .ok rules) ↔
      ∀ pattern ∈ settings.dropPatterns, (compile pattern).isSome = true) ∧
    (∀ pattern, settings.brokenPattern? compile = some pattern →
      ofSettings compile settings = .error (.invalidPattern pattern) ∧
      ∀ request base, resolveBase settings request.environment request.base = .ok base →
        Generation.prepare compile request settings = .error ⟨.compileRules, .invalidPattern pattern⟩) ∧
    ∀ header implementation, (settings.withPatterns header implementation).fault? = none := by
  have wellFormed : settings.brokenPattern? compile = none ↔
      ∀ pattern ∈ settings.dropPatterns, (compile pattern).isSome = true := by
    simp [Settings.brokenPattern?, Option.isSome_iff_ne_none]
  refine ⟨⟨?_, ?_⟩, ?_, ?_⟩
  · rintro ⟨rules, compiled⟩
    rw [← wellFormed]
    cases broken : settings.brokenPattern? compile with
    | none => rfl
    | some pattern =>
      rw [ofSettings_of_broken broken] at compiled
      cases compiled
  · exact fun all => ofSettings_of_wellFormed (wellFormed.mpr all)
  · intro pattern broken
    refine ⟨ofSettings_of_broken broken, fun request base resolved => ?_⟩
    rw [Generation.prepare, resolved, ofSettings_of_broken broken]
  · intro header implementation
    rw [Settings.fault?_withPatterns]
    exact (Settings.parse_eq_ok_iff.mp loaded).2

end Rules

/-- A text whose only pattern is well-formed. -/
def guardText : String :=
  "[header]\ndrop_patterns = [\"^#pragma once\"]\n"

def guardSettings : Settings where
  header := { dropPatterns := ["^#pragma once"] }

theorem parse_guardText : Settings.parse (.ofString ".standalone.toml") guardText = .ok guardSettings :=
  Settings.parse_eq_ok_iff.mpr ⟨by decide +kernel, by decide⟩

/-- The settings are loaded, and their rules are compiled. -/
theorem Rules.ofSettings_of_loaded_guardText :
    Settings.parse (.ofString ".standalone.toml") guardText = .ok guardSettings ∧
      ∃ rules, ofSettings Pattern.compile guardSettings = .ok rules :=
  ⟨parse_guardText, (ofSettings_of_loaded parse_guardText).1.mpr (by decide +kernel)⟩

/-- A text whose only pattern opens a group and does not close it. -/
def unclosedText : String :=
  "[header]\ndrop_patterns = [\"(\"]\n"

def unclosed : Settings where
  header := { dropPatterns := ["("] }

theorem parse_unclosed : Settings.parse (.ofString ".standalone.toml") unclosedText = .ok unclosed :=
  Settings.parse_eq_ok_iff.mpr ⟨by decide +kernel, by decide⟩

/-- The settings are loaded, and they have no rules. -/
theorem Rules.unclosed_loads_without_rules :
    Settings.parse (.ofString ".standalone.toml") unclosedText = .ok unclosed ∧
      Rules.ofSettings Pattern.compile unclosed = .error (.invalidPattern "(") :=
  ⟨parse_unclosed, ofSettings_of_broken (by decide +kernel)⟩

end Amalgam
