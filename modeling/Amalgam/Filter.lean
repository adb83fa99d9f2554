import Amalgam.Text.Bytes

namespace Amalgam

/-- A filter drops quoted includes of internal headers, lines with a marker, and lines that a
pattern matches. A pattern sees the raw line with its terminator. -/
structure Filter where
  includePrefixes : List Bytes := []
  markers : List Bytes := []
  patterns : List (Bytes → Bool) := []

namespace Filter

/-- The opening of a quoted include directive. -/
def quotedInclude : Bytes :=
  Bytes.ofString "#include \""

/-- Only a directive at column zero counts. Its target is internal when it starts with one of the
prefixes. -/
def isInternalInclude (filter : Filter) (line : Bytes) : Bool :=
  match Bytes.dropLead? quotedInclude line with
  | some target => filter.includePrefixes.any (·.isPrefixOf target)
  | none => false

def drops (filter : Filter) (line : Bytes) : Bool :=
  filter.isInternalInclude line || filter.markers.any line.contains || filter.patterns.any (· line)

/-- The filter with the rules of both. -/
def append (first second : Filter) : Filter where
  includePrefixes := first.includePrefixes ++ second.includePrefixes
  markers := first.markers ++ second.markers
  patterns := first.patterns ++ second.patterns

instance : Append Filter := ⟨append⟩

/-- Compiles the patterns in order and reports the first one that does not compile. -/
def compilePatterns (compile : String → Option (Bytes → Bool)) :
    List String → Except String (List (Bytes → Bool))
  | [] => .ok []
  | pattern :: more =>
    match compile pattern with
    | none => .error pattern
    | some compiled => (compilePatterns compile more).map (compiled :: ·)

end Filter

end Amalgam
