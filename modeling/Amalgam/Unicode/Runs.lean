import Amalgam.Unicode.CodeSet

namespace Amalgam.Unicode

/-- A partition of the code points into runs that share a value. A run is as long as its number says
and starts where the one before it ends. -/
structure Runs (α : Type) where
  list : List (Nat × α)

namespace Runs

/-- What is read of a run: its length so far, and its tag so far, latest first. -/
structure Reading where
  length : Nat := 0
  tag : List Char := []

/-- Reads lengths and tags of a fixed width. A tag starts with a capital letter. -/
def readFrom (width : Nat) (reading : Reading) : List Char → List (Nat × String)
  | [] => []
  | c :: rest =>
    if reading.tag.isEmpty && !c.isUpper then
      readFrom width { reading with length := 16 * reading.length + hexDigitValue c } rest
    else if reading.tag.length + 1 < width then
      readFrom width { reading with tag := c :: reading.tag } rest
    else
      (reading.length, String.ofList (c :: reading.tag).reverse) :: readFrom width {} rest

def ofTexts {α : Type} (width : Nat) (value : String → α) (texts : List String) : Runs α :=
  let runs := texts.flatMap fun text => readFrom width {} text.toList
  ⟨runs.map fun (length, tag) => (length, value tag)⟩

/-- The ranges of the runs whose values pass the test, of which the first starts at `start`. -/
def rangesFrom {α : Type} (p : α → Bool) (start : Nat) : List (Nat × α) → List (Nat × Nat)
  | [] => []
  | (length, value) :: runs =>
    let ranges := rangesFrom p (start + length) runs
    if p value then (start, start + length - 1) :: ranges else ranges

/-- The code points whose values pass the test. -/
def set {α : Type} (runs : Runs α) (p : α → Bool) : CodeSet :=
  .ofRanges (rangesFrom p 0 runs.list)

end Runs

end Amalgam.Unicode
