import Amalgam.Proofs.Filtering
import Amalgam.Proofs.Run
import Amalgam.Proofs.Search
import Amalgam.Proofs.Step

namespace Amalgam

namespace Replacement

variable {r : Replacement}

/-- A text that may stand on a line of its own: it is a single line, no throw and no internal include. -/
structure StandsAlone (r : Replacement) (text : Bytes) : Prop where
  single : Ascii.newline ∉ text
  noThrow : text.contains r.throwPattern = false
  noInclude : r.filter.isInternalInclude text = false

/-- What is put in place of throws and behind them may stand on lines of their own, and whether a line is an
internal include or a throw does not depend on the newline behind it. -/
structure Tidy (r : Replacement) : Prop where
  patterns : r.filter.patterns = []
  prefixes : ∀ internal ∈ r.filter.includePrefixes, Ascii.newline ∉ internal
  throwPattern : r.throwPattern ≠ [] ∧ Ascii.newline ∉ r.throwPattern
  diagnostic : r.StandsAlone r.diagnostic
  raise : r.StandsAlone r.raise

theorem Tidy.drops_iff (tidy : r.Tidy) {line : Bytes} :
    r.filter.drops line = true ↔
      r.filter.isInternalInclude line = true ∨ ∃ marker ∈ r.filter.markers, line.contains marker = true := by
  simp only [Filter.drops, tidy.patterns, List.any_nil, Bool.or_false, Bool.or_eq_true, List.any_eq_true]

end Replacement

end Amalgam
