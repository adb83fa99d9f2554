import Std.Data.HashMap
import Amalgam.Pattern.Normal

namespace Amalgam.Pattern

open Unicode (CodeSet)

inductive Direction where
  | forward
  | backward
  deriving Repr, DecidableEq

/-- The memory of a state. A state with one transition takes no more. -/
def stateSize : Nat := 32

def transitionSize : Nat := 8

def alternativeSize : Nat := 4

/-- The memory that the machine of a pattern may take. Patterns with larger ones are refused. -/
def sizeLimit : Nat := 10 * 1024 * 1024

/-- The sum of sizes. -/
def total (sizes : List Nat) : Nat :=
  sizes.foldr (· + ·) 0

/-- One state with a transition for each range, and one that ends it. -/
def sizeOfBytes (set : CodeSet) : Nat :=
  2 * stateSize + set.ranges.length * transitionSize

/-- Forms of encodings that start with the same range. -/
structure FormGroup where
  range : Nat × Nat
  rests : List Utf8.Form

def groupForms : List Utf8.Form → List FormGroup
  | [] => []
  | [] :: forms => groupForms forms
  | (range :: rest) :: forms =>
    match groupForms forms with
    | group :: groups =>
      if group.range = range then ⟨range, rest :: group.rests⟩ :: groups
      else ⟨range, [rest]⟩ :: group :: groups
    | [] => [⟨range, [rest]⟩]

/-- The sets of forms that are left to read in encodings of at most `n` bytes, each with the number
of ranges that come next. -/
def restsOf : Nat → List Utf8.Form → List (List Utf8.Form × Nat)
  | 0, _ => []
  | n + 1, forms =>
    let groups := groupForms forms
    if groups.isEmpty then []
    else (forms, groups.length) :: groups.flatMap fun group => restsOf n group.rests

/-- The number of different beginnings of the forms. -/
def beginningsOf : Nat → List Utf8.Form → Nat
  | 0, _ => 0
  | n + 1, forms => total ((groupForms forms).map fun group => 1 + beginningsOf n group.rests)

/-- The forms of the characters of a set. No text holds a surrogate. -/
def encodingForms (set : CodeSet) : List Utf8.Form :=
  (set \ .range 0xD800 0xDFFF).ranges.flatMap fun (first, last) => Utf8.forms first last

/-- Forward, equal ends of encodings share their states. Backward, equal beginnings do. -/
def sizeOfCharacters (set : CodeSet) : Direction → Nat
  | .forward =>
    let rests := Std.HashMap.ofList (restsOf 4 (encodingForms set))
    stateSize + total (rests.toList.map fun (_, count) => stateSize + count * transitionSize)
  | .backward =>
    let forms := encodingForms set
    2 * stateSize + forms.length * alternativeSize + beginningsOf 4 forms * stateSize

/-- The texts up to the first empty one, those behind it up to the next, and so on. -/
def cutAtEmpty : List Bytes → List (List Bytes)
  | [] => [[]]
  | [] :: texts => [] :: cutAtEmpty texts
  | text :: texts =>
    match cutAtEmpty texts with
    | chunk :: chunks => (text :: chunk) :: chunks
    | [] => [[text]]

/-- The texts that start with a byte, without it. -/
def behindByte (b : UInt8) (texts : List Bytes) : List Bytes :=
  (texts.filter (·.head? == some b)).map (·.drop 1)

/-- The states that read one of some texts of at most `n` bytes, where the order of texts is that in
which they are tried. A text that ends comes between those that are tried before and behind it. -/
def sizeOfTree : Nat → List Bytes → Nat
  | 0, _ => 0
  | n + 1, texts =>
    if texts.all (·.isEmpty) then 0
    else
      let chunks := cutAtEmpty texts
      let sizes := chunks.map fun chunk =>
        let firsts := (chunk.filterMap (·.head?)).eraseDups
        let below := total (firsts.map fun b => sizeOfTree n (behindByte b chunk))
        match firsts.length with
        | 0 => 0
        | 1 => alternativeSize + stateSize + below
        | count => alternativeSize + stateSize + count * transitionSize + below
      stateSize + (chunks.length - 1) * alternativeSize + total sizes

def sizeOfWords (texts : List Bytes) (direction : Direction) : Nat :=
  let texts := if direction = .backward then texts.map List.reverse else texts
  stateSize + sizeOfTree ((texts.map List.length).foldl max 0 + 1) texts

def Atom.size (direction : Direction) : Atom → Nat
  | .text bytes => bytes.length * stateSize
  | .words texts => sizeOfWords texts direction
  | .look _ => stateSize
  | .byte set => sizeOfBytes set
  | .character set => if set.isAscii then sizeOfBytes set else sizeOfCharacters set direction

namespace Expr

/-- The length of the shortest match, where each branch of each choice has one. -/
def shortest? : Expr Atom → Option Nat
  | .empty => some 0
  | .atom (.text bytes) => some bytes.length
  | .atom (.words texts) => (texts.map List.length).min?
  | .atom (.look _) => some 0
  | .atom (.byte set) => if set = ∅ then none else some 1
  | .atom (.character _) => some 1
  | .capture body => body.shortest?
  | .sequence first rest => do return (← first.shortest?) + (← rest.shortest?)
  | .choice first rest => do return min (← first.shortest?) (← rest.shortest?)
  | .repetition least _ body => body.shortest?.map (least * ·)

/-- The size of a body that is repeated, with each repetition written out. What may be left out is
behind a state that splits. -/
def sizeOfRepetition (body : Nat) (isNeverEmpty : Bool) : Nat → Option Nat → Nat
  | 0, none =>
    if isNeverEmpty then body + stateSize + 2 * alternativeSize
    else body + 3 * stateSize + 4 * alternativeSize
  | least, none => least * body + stateSize + 2 * alternativeSize
  | 0, some 1 => body + 2 * stateSize + 2 * alternativeSize
  | least, some most =>
    let optional := body + stateSize + 2 * alternativeSize
    if least = most then least * body
    else
      (if least = 0 then stateSize else least * body) + stateSize + (most - least) * optional

/-- The size of the expression in a machine. Only the forward machine marks where captures start and
end. -/
def size (direction : Direction) : Expr Atom → Nat
  | .empty => stateSize
  | .atom a => a.size direction
  | .capture body => body.size direction + if direction = .forward then 2 * stateSize else 0
  | .sequence first rest => first.size direction + rest.size direction
  | .choice first rest =>
    let last := match rest with
      | .choice _ _ => 0
      | _ => 2 * stateSize + alternativeSize
    first.size direction + alternativeSize + last + rest.size direction
  | .repetition least most body =>
    sizeOfRepetition (body.size direction) (body.shortest?.any (0 < ·)) least most

/-- Whether every match touches the end of the text at which the machine begins. -/
def isAnchored (direction : Direction) : Expr Atom → Bool
  | .atom (.look .textStart) => direction = .forward
  | .atom (.look .textEnd) => direction = .backward
  | .empty => false
  | .atom _ => false
  | .capture body => body.isAnchored direction
  | .sequence first rest =>
    match direction with
    | .forward => first.isAnchored direction || (first.isIdle && rest.isAnchored direction)
    | .backward => rest.isAnchored direction || (rest.isIdle && first.isAnchored direction)
  | .choice first rest => first.isAnchored direction && rest.isAnchored direction
  | .repetition least _ body => 0 < least && body.isAnchored direction

/-- The size of the machine. It begins by skipping bytes, unless every match begins where the text
does, and the whole match is captured. -/
def machineSize (expr : Expr Atom) (direction : Direction) : Nat :=
  let skipping := if expr.isAnchored direction then stateSize
    else sizeOfBytes (.range 0 0xFF) + stateSize + 2 * alternativeSize
  skipping + (Expr.capture expr).size direction + stateSize

def fits (expr : Expr Atom) : Bool :=
  expr.machineSize .forward ≤ sizeLimit && expr.machineSize .backward ≤ sizeLimit

end Expr

end Amalgam.Pattern
