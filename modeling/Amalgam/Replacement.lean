import Amalgam.Rule
import Amalgam.Statement.Scanner
import Amalgam.Statement.ArgumentList

namespace Amalgam

/-- How the end of a replaced throw is found. -/
inductive Terminator where
  /-- the raise follows a fixed number of lines after the throw -/
  | lineOffset
  /-- the raise follows the first line that closes the statement -/
  | statementEnd
  deriving Repr, DecidableEq

def Terminator.name : Terminator → String
  | lineOffset => "line-offset"
  | statementEnd => "statement-end"

/-- What is dropped, and what throws are replaced by. -/
structure Replacement where
  filter : Filter
  headerArtifact : String
  systemIncludes : List String
  throwPattern : Bytes
  diagnostic : Bytes
  raise : Bytes
  terminator : Terminator
  offset : Nat

namespace Replacement

/-- What is remembered from line to line. Nothing keeps the fields apart: that the other two are fresh
whenever no line is pending is a fact about runs. -/
structure State where
  /-- index of the line with the latest throw whose raise statement is still to come -/
  pendingLine : Option Nat := none
  /-- the scan for the end of the statement so far -/
  scanner : Scanner := {}
  /-- the diagnostic opened a block that the raise has to close -/
  braced : Bool := false
  deriving Repr, DecidableEq

/-- The throw on a line waits for its raise statement. -/
def State.pending (index : Nat) (scanner : Scanner) (braced : Bool) : State where
  pendingLine := some index
  scanner := scanner
  braced := braced

def openBlock : Bytes :=
  Bytes.ofString "\x7b "

def closeBlock : Bytes :=
  Bytes.ofString " \x7d"

/-- The raise statement on a line of its own, with the block closed if there is one. -/
def raiseLine (replacement : Replacement) (braced : Bool) : Bytes :=
  replacement.raise ++ (if braced then closeBlock else []) ++ [Ascii.newline]

/-- A line with a throw, taken apart. -/
structure Throw where
  /-- the code before the throw -/
  lead : Bytes
  /-- what follows the construction of the exception -/
  tail : Bytes
  deriving Repr, DecidableEq

/-- Takes a line apart around the throw found at `start`. The construction of the exception reaches
to the end of its argument list, or of the line if there is none. -/
def throwAt (replacement : Replacement) (line : Bytes) (start : Nat) : Throw :=
  let body := (Line.ofBytes line).body
  let start := min start body.length
  { lead := body.take start
    tail := match ArgumentList.end? body (start + replacement.throwPattern.length) with
      | some stop => body.drop stop
      | none => [] }

/-- Code other than blanks before the throw stays, and the diagnostic opens a block behind it. -/
def Throw.braced (throw : Throw) : Bool :=
  !throw.lead.all Ascii.isBlank

/-- The line that replaces a throw. -/
def diagnosticLine (replacement : Replacement) (throw : Throw) : Bytes :=
  (if throw.braced then throw.lead ++ openBlock else []) ++ replacement.diagnostic ++ throw.tail ++
    [Ascii.newline]

/-- Replaces a line with a throw at `start`. -/
def trigger (replacement : Replacement) (index : Nat) (line : Bytes) (start : Nat) :
    Emission × State :=
  match replacement.terminator with
  | .lineOffset =>
    (⟨.triggered, replacement.diagnostic ++ [Ascii.newline]⟩, .pending index {} false)
  | .statementEnd =>
    let throw := replacement.throwAt line start
    match Scanner.findTerminator {} throw.tail with
    | (some _, _) =>
      (⟨.triggeredAndTerminated,
          replacement.diagnosticLine throw ++ replacement.raiseLine throw.braced⟩, {})
    | (none, scanner) =>
      (⟨.triggered, replacement.diagnosticLine throw⟩, .pending index scanner throw.braced)

/-- Emits a line with the raise statement behind it. -/
def terminate (replacement : Replacement) (line : Bytes) (braced : Bool) : Emission :=
  let gap := if (Line.ofBytes line).terminator.isEmpty then [Ascii.newline] else []
  ⟨.terminated, line ++ gap ++ replacement.raiseLine braced⟩

/-- Emits a line that follows the throw on line `trigger`. -/
def proceed (replacement : Replacement) (state : State) (trigger index : Nat) (line : Bytes) :
    Emission × State :=
  match replacement.terminator with
  | .lineOffset =>
    if index = trigger + replacement.offset then (replacement.terminate line false, {})
    else (⟨.kept, line⟩, state)
  | .statementEnd =>
    match state.scanner.findTerminator line with
    | (some _, _) => (replacement.terminate line state.braced, {})
    | (none, scanner) => (⟨.kept, line⟩, .pending trigger scanner state.braced)

/-- A dropped line leaves the state alone, and a throw replaces one that is still pending. -/
def apply (replacement : Replacement) (state : State) (index : Nat) (line : Bytes) : Emission × State :=
  if replacement.filter.drops line then (⟨.dropped, []⟩, state)
  else match line.indexOf? replacement.throwPattern with
    | some start => replacement.trigger index line start
    | none =>
      match state.pendingLine with
      | none => (⟨.kept, line⟩, state)
      | some trigger => replacement.proceed state trigger index line

/-- The artifact starts with the include of the header artifact and the system includes. -/
def preamble (replacement : Replacement) : Bytes :=
  Bytes.ofString ("#include \"" ++ replacement.headerArtifact ++ "\"\n") ++
    (replacement.systemIncludes.map fun header =>
      Bytes.ofString ("#include " ++ header ++ "\n")).flatten

def rule (replacement : Replacement) : Rule State where
  preamble := replacement.preamble
  initial := {}
  apply := replacement.apply

end Replacement

end Amalgam
