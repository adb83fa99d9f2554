import Amalgam.Proofs.Split
import Amalgam.Rule

namespace Amalgam.Filter

variable {filter first second : Filter} {line : Bytes}

theorem isInternalInclude_iff :
    filter.isInternalInclude line = true ↔
      ∃ internal ∈ filter.includePrefixes, quotedInclude ++ internal <+: line := by
  unfold isInternalInclude Bytes.dropLead?
  split
  next target found =>
    obtain ⟨opened, same⟩ := Option.ite_none_right_eq_some.mp found
    cases same
    obtain ⟨behind, rfl⟩ := List.isPrefixOf_iff_prefix.mp opened
    simp only [List.any_eq_true, List.isPrefixOf_iff_prefix, List.drop_left, List.prefix_append_right_inj]
  next unopened =>
    simp only [Bool.false_eq_true, false_iff]
    rintro ⟨internal, _, starts⟩
    rw [if_pos (List.isPrefixOf_iff_prefix.mpr ((List.prefix_append _ _).trans starts))] at unopened
    exact Option.some_ne_none _ unopened

theorem drops_iff : filter.drops line = true ↔
    (∃ internal ∈ filter.includePrefixes, quotedInclude ++ internal <+: line) ∨
      (∃ marker ∈ filter.markers, line.contains marker = true) ∨ ∃ pattern ∈ filter.patterns, pattern line = true := by
  rw [drops, Bool.or_eq_true, Bool.or_eq_true, isInternalInclude_iff, List.any_eq_true, List.any_eq_true, or_assoc]

/-- Both filters have the same rules, in any order and any number of times. -/
structure SameRules (first second : Filter) : Prop where
  includePrefixes : ∀ internal, internal ∈ first.includePrefixes ↔ internal ∈ second.includePrefixes
  markers : ∀ marker, marker ∈ first.markers ↔ marker ∈ second.markers
  patterns : ∀ pattern, pattern ∈ first.patterns ↔ pattern ∈ second.patterns

theorem SameRules.drops_eq (same : first.SameRules second) (line : Bytes) : first.drops line = second.drops line := by
  rw [Bool.eq_iff_iff, drops_iff, drops_iff]
  simp only [same.includePrefixes, same.markers, same.patterns]

theorem drops_append (first second : Filter) (line : Bytes) :
    (first ++ second).drops line = (first.drops line || second.drops line) := by
  have prefixes : (first ++ second).includePrefixes = first.includePrefixes ++ second.includePrefixes := rfl
  have markers : (first ++ second).markers = first.markers ++ second.markers := rfl
  have patterns : (first ++ second).patterns = first.patterns ++ second.patterns := rfl
  rw [Bool.eq_iff_iff, Bool.or_eq_true, drops_iff, drops_iff, drops_iff, prefixes, markers, patterns]
  simp only [List.mem_append, or_and_right, exists_or]
  grind

/-- The lines that the filter keeps. -/
def kept (filter : Filter) (lines : List Bytes) : List Bytes :=
  lines.filter fun line => !filter.drops line

theorem kept_append (first second : Filter) (lines : List Bytes) :
    (first ++ second).kept lines = second.kept (first.kept lines) := by
  rw [kept, kept, kept, List.filter_filter]
  refine List.filter_congr fun line _ => ?_
  rw [drops_append, Bool.not_or, Bool.and_comm]

theorem kept_comm (first second : Filter) (lines : List Bytes) :
    second.kept (first.kept lines) = first.kept (second.kept lines) := by
  rw [kept, kept, kept, kept, List.filter_filter, List.filter_filter]
  exact List.filter_congr fun line _ => Bool.and_comm _ _

theorem kept_kept (filter : Filter) (lines : List Bytes) : filter.kept (filter.kept lines) = filter.kept lines := by
  rw [kept, kept, List.filter_filter]
  exact List.filter_congr fun line _ => Bool.and_self _

theorem SameRules.kept_eq (same : first.SameRules second) (lines : List Bytes) :
    first.kept lines = second.kept lines :=
  List.filter_congr fun line _ => by rw [same.drops_eq]

theorem contribution_eq (filter : Filter) (content : Bytes) :
    filter.rule.contribution content = (filter.kept content.lines).flatten := by
  -- The filter has no state, but its lines are counted, so the induction is over every index.
  have onward : ∀ (lines : List Bytes) (index : Nat),
      ((filter.rule.run () index lines).1.map (·.text)).flatten = (filter.kept lines).flatten := by
    intro lines
    induction lines with
    | nil => exact fun _ => rfl
    | cons line lines ih =>
      intro index
      have later := ih (index + 1)
      rw [kept] at later
      rw [Rule.run, List.map_cons, List.flatten_cons, kept, List.filter_cons]
      cases dropped : filter.drops line with
      | true => simpa [rule, dropped] using later
      | false => simpa [rule, dropped] using later
  exact onward content.lines 0

/-- Split again, what is left falls into the lines that were kept, even if the last one has no newline. -/
theorem lines_contribution (filter : Filter) (content : Bytes) :
    (filter.rule.contribution content).lines = filter.kept content.lines := by
  rw [contribution_eq]
  refine Bytes.lines_flatten ((Bytes.areLines_lines content).sublist List.filter_sublist) ?_
  exact fun line member => Bytes.ne_nil_of_mem_lines (List.mem_filter.mp member).1

/-- Filters that follow one another do what one with the rules of both does, and they do it in any order. A filter
that follows itself does nothing, and it depends neither on the order of its rules nor on how often each is there. What
is added to a filter takes out more lines, and leaves the others as they are. -/
theorem contribution_append (first second : Filter) (content : Bytes) :
    second.rule.contribution (first.rule.contribution content) = (first ++ second).rule.contribution content ∧
    (first ++ second).rule.contribution content = first.rule.contribution (second.rule.contribution content) ∧
    first.rule.contribution (first.rule.contribution content) = first.rule.contribution content ∧
    (∀ other, first.SameRules other → first.rule.contribution content = other.rule.contribution content) ∧
    (first.rule.contribution content).lines = content.lines.filter (fun line => !first.drops line) ∧
    ((first ++ second).rule.contribution content).lines =
      (first.rule.contribution content).lines.filter fun line => !second.drops line := by
  refine ⟨?_, ?_, ?_, fun other same => ?_, lines_contribution first content, ?_⟩
  · rw [contribution_eq, lines_contribution, contribution_eq, kept_append]
  · rw [contribution_eq, contribution_eq first, lines_contribution, kept_append, kept_comm]
  · rw [contribution_eq, lines_contribution, kept_kept, contribution_eq]
  · rw [contribution_eq, contribution_eq, same.kept_eq]
  · rw [lines_contribution, lines_contribution, kept_append]
    rfl

/-- Two rules, one of which is there twice. -/
def internalHeaders : Filter where
  includePrefixes := [Bytes.ofString "CondFormats", Bytes.ofString "FWCore", Bytes.ofString "CondFormats"]

def serialization : Filter where
  markers := [Bytes.ofString "COND_SERIALIZABLE"]
  patterns := [fun line => line.getLast? != some Ascii.newline]

/-- A line that is no UTF-8, and a last line without a newline. -/
def annotatedHeader : Bytes :=
  Bytes.ofString "#include \"FWCore/A.h\"\n// " ++ [0xE8] ++ Bytes.ofString "\nCOND_SERIALIZABLE;\nint a;"

/-- Only the comment is left. -/
theorem contribution_append_annotatedHeader :
    internalHeaders.SameRules ⟨[Bytes.ofString "FWCore", Bytes.ofString "CondFormats"], [], []⟩ ∧
      serialization.rule.contribution (internalHeaders.rule.contribution annotatedHeader) =
        Bytes.ofString "// " ++ [0xE8, Ascii.newline] ∧
      Rule.contribution (Filter.rule ⟨[Bytes.ofString "FWCore", Bytes.ofString "CondFormats"], [], []⟩)
          annotatedHeader =
        Bytes.ofString "// " ++ [0xE8] ++ Bytes.ofString "\nCOND_SERIALIZABLE;\nint a;" := by
  have same : internalHeaders.SameRules ⟨[Bytes.ofString "FWCore", Bytes.ofString "CondFormats"], [], []⟩ :=
    ⟨fun internal => by simp [internalHeaders, or_comm], fun _ => Iff.rfl, fun _ => Iff.rfl⟩
  obtain ⟨both, _, _, reordered, _⟩ := contribution_append internalHeaders serialization annotatedHeader
  refine ⟨same, both.trans ?_, (reordered _ same).symm.trans ?_⟩
  · decide
  · decide

end Amalgam.Filter
