import Amalgam.Text.Line
import Amalgam.Filter

namespace Amalgam

/-- What a rule did with one line. -/
inductive Outcome where
  /-- copied unchanged -/
  | kept
  /-- not emitted -/
  | dropped
  /-- replaced by the diagnostic -/
  | triggered
  /-- emitted with the raise statement behind it -/
  | terminated
  /-- replaced by the diagnostic with the raise statement behind it -/
  | triggeredAndTerminated
  deriving Repr, DecidableEq

/-- What a rule emits for one line, terminators included. -/
structure Emission where
  outcome : Outcome
  text : Bytes
  deriving Repr, DecidableEq

/-- A rule maps a line to what is emitted for it, given the state left by the line before and the
index of the line in its file. Every file starts from the initial state. -/
structure Rule (State : Type) where
  preamble : Bytes
  initial : State
  apply : State → Nat → Bytes → Emission × State

namespace Rule

variable {State : Type}

/-- The emissions for consecutive lines, the first of which has the given index, and the state
after the last. -/
def run (rule : Rule State) (state : State) (index : Nat) : List Bytes → List Emission × State
  | [] => ([], state)
  | line :: lines =>
    let (emission, next) := rule.apply state index line
    let (emissions, final) := run rule next (index + 1) lines
    (emission :: emissions, final)

/-- The emissions for the lines of a file. -/
def emissions (rule : Rule State) (content : Bytes) : List Emission :=
  (rule.run rule.initial 0 content.lines).1

/-- What a file contributes to an artifact. -/
def contribution (rule : Rule State) (content : Bytes) : Bytes :=
  ((rule.emissions content).map (·.text)).flatten

end Rule

/-- The rule for headers keeps or drops each line on its own. -/
def Filter.rule (filter : Filter) : Rule Unit where
  preamble := []
  initial := ()
  apply _ _ line := (if filter.drops line then ⟨.dropped, []⟩ else ⟨.kept, line⟩, ())

end Amalgam
