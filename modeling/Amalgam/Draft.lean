import Amalgam.Rule

namespace Amalgam

/-- A file that is read while it is written. What is written waits in memory until there is enough of
it, and only what has left the memory can be read. -/
structure Draft where
  /-- what is in the file and not yet read -/
  stored : Bytes := []
  /-- what waits in memory, latest first -/
  waiting : List Bytes := []
  /-- how many more bytes may wait -/
  room : Nat
  deriving Repr

namespace Draft

/-- How many bytes may wait at most. -/
def capacity : Nat := 8192

def empty : Draft := { room := capacity }

/-- Lets a chunk wait if there is room for it. If there is not, all that waits goes to the file first,
and the chunk follows it if it could never wait. -/
def write (draft : Draft) (chunk : Bytes) : Draft :=
  let size := chunk.length
  if size < capacity ∧ size ≤ draft.room then
    { draft with waiting := chunk :: draft.waiting, room := draft.room - size }
  else
    let stored := draft.stored ++ draft.waiting.reverse.flatten
    if size < capacity then ⟨stored, [chunk], capacity - size⟩ else ⟨stored ++ chunk, [], capacity⟩

def ofChunks (chunks : List Bytes) : Draft :=
  chunks.foldl write empty

/-- What becomes of the lines of a file that is read while the rule writes to it. -/
structure Reading where
  emissions : List Emission
  /-- whether the end of the file was reached -/
  finished : Bool

/-- Applies the rule to at most so many lines of the file, each of which is read when the one before
it has been written. What was emitted before stands in `emitted`, latest first. -/
def readFrom {State : Type} (rule : Rule State) (emitted : List Emission) (state : State)
    (index : Nat) (draft : Draft) : Nat → Reading
  | 0 => ⟨emitted.reverse, false⟩
  | n + 1 =>
    match draft.stored.splitFirstLine with
    | ([], _) => ⟨emitted.reverse, true⟩
    | (line, rest) =>
      let (emission, next) := rule.apply state index line
      let draft := { draft with stored := rest }.write emission.text
      readFrom rule (emission :: emitted) next (index + 1) draft n

/-- A file grows to at most so many lines while it is read. -/
def lineLimit : Nat := 1000000

/-- Reads the file from its start with a rule that writes to its end. -/
def read {State : Type} (draft : Draft) (rule : Rule State) : Reading :=
  readFrom rule [] rule.initial 0 draft lineLimit

end Draft

end Amalgam
