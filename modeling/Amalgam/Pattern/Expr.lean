import Amalgam.Pattern.Tree
import Amalgam.Text.Utf8
import Amalgam.Unicode.PropertyName

namespace Amalgam.Pattern

/-- An expression over atoms. A choice has its other branches in the rest, as a sequence has its
other items. -/
inductive Expr (α : Type) where
  | empty
  | atom (a : α)
  /-- a part that is told from all others -/
  | capture (body : Expr α)
  | sequence (first rest : Expr α)
  | choice (first rest : Expr α)
  | repetition (least : Nat) (most : Option Nat) (body : Expr α)
  deriving DecidableEq

def Expr.map {α β : Type} (f : α → β) : Expr α → Expr β
  | .empty => .empty
  | .atom a => .atom (f a)
  | .capture body => .capture (body.map f)
  | .sequence first rest => .sequence (first.map f) (rest.map f)
  | .choice first rest => .choice (first.map f) (rest.map f)
  | .repetition least most body => .repetition least most (body.map f)

/-- A set of positions in a text. A binary digit tells whether a position is in it. Matching follows all
positions that the part read so far can reach, so the order of branches does not matter. -/
abbrev Positions := Nat

def Positions.ofList (members : List Bool) : Positions :=
  members.foldr (fun isMember rest => 2 * rest + isMember.toNat) 0

/-- How an atom moves through a given text: from these positions, so many bytes forward. -/
structure Hop where
  sources : Positions
  width : Nat

def Hop.targets (hop : Hop) (positions : Positions) : Positions :=
  (positions &&& hop.sources) <<< hop.width

/-- Steps that many times. -/
def Positions.iterate (step : Positions → Positions) : Nat → Positions → Positions
  | 0, positions => positions
  | n + 1, positions => if positions = 0 then 0 else iterate step n (step positions)

/-- Steps up to that many times, and keeps every position on the way. Only new positions are
stepped from. -/
def Positions.spread (step : Positions → Positions) : Nat → Positions → Positions → Positions
  | 0, seen, _ => seen
  | n + 1, seen, fresh =>
    let fresh := (step fresh ||| seen) ^^^ seen
    if fresh = 0 then seen else spread step n (seen ||| fresh) fresh

/-- The positions behind a match that starts at one of the given positions. In a text with fewer
than `bound` positions, no repetition that often finds less or more than a longer one. -/
def Expr.reach (bound : Nat) : Expr (List Hop) → Positions → Positions
  | .empty, positions => positions
  | .atom hops, positions => hops.foldl (fun reached hop => reached ||| hop.targets positions) 0
  | .capture body, positions => body.reach bound positions
  | .sequence first rest, positions => rest.reach bound (first.reach bound positions)
  | .choice first rest, positions => first.reach bound positions ||| rest.reach bound positions
  | .repetition least most body, positions =>
    let reached := Positions.iterate (body.reach bound) (min least bound) positions
    let more := match most with
      | none => bound
      | some most => min (most - least) bound
    Positions.spread (body.reach bound) more reached reached

/-- An assertion about the bytes on both sides of a position. -/
inductive Look where
  | textStart
  | textEnd
  /-- the start of a line, where a carriage return may end a line, too, or may not -/
  | lineStart (carriageReturns : Bool)
  | lineEnd (carriageReturns : Bool)
  /-- an edge of a word, by the word characters of Unicode or of ASCII -/
  | word (unicode : Bool) (edge : WordEdge)
  deriving Repr, DecidableEq

inductive Atom where
  /-- these bytes -/
  | text (bytes : Bytes)
  /-- one of these texts -/
  | words (texts : List Bytes)
  /-- an encoded character of this set -/
  | character (set : Unicode.CodeSet)
  /-- a byte of this set -/
  | byte (set : Unicode.CodeSet)
  | look (look : Look)
  deriving Repr, DecidableEq

/-- The word characters of ASCII. -/
def isAsciiWord (c : Nat) : Bool :=
  c < 0x80 && ((Char.ofNat c).isAlphanum || c == '_'.toNat)

/-- What a side of a position has to do with words. -/
structure Side where
  isWord : Bool
  /-- whether the text ends there or a character can be read, so that the position does not split
  the encoding of a character -/
  isSound : Bool := true

namespace Side

/-- The side before a position. The bytes come latest first. -/
def before (unicode : Bool) (bytes : Bytes) : Side :=
  if unicode then
    match Utf8.decodeLast? bytes with
    | some c => { isWord := Unicode.wordCharacter.contains c }
    | none => { isWord := false, isSound := bytes.isEmpty }
  else { isWord := bytes.head?.any fun b => isAsciiWord b.toNat }

/-- The side behind a position. -/
def behind (unicode : Bool) (bytes : Bytes) : Side :=
  if unicode then
    match Utf8.decode? bytes with
    | some (c, _) => { isWord := Unicode.wordCharacter.contains c }
    | none => { isWord := false, isSound := bytes.isEmpty }
  else { isWord := bytes.head?.any fun b => isAsciiWord b.toNat }

end Side

/-- Edges that a position inside an encoded character could satisfy ask that both sides, or the
side they look at, are sound. -/
def WordEdge.holds (before behind : Side) : WordEdge → Bool
  | .boundary => before.isWord != behind.isWord
  | .noBoundary => before.isSound && behind.isSound && before.isWord == behind.isWord
  | .start => !before.isWord && behind.isWord
  | .end => before.isWord && !behind.isWord
  | .startHalf => before.isSound && !before.isWord
  | .endHalf => behind.isSound && !behind.isWord

/-- Whether the assertion holds between the bytes before a position, latest first, and those
behind it. A carriage return and a newline together end one line. -/
def Look.holds (before behind : Bytes) : Look → Bool
  | .textStart => before.isEmpty
  | .textEnd => behind.isEmpty
  | .lineStart carriageReturns =>
    before.isEmpty || before.head? == some Ascii.newline ||
      (carriageReturns && before.head? == some Ascii.carriageReturn &&
        behind.head? != some Ascii.newline)
  | .lineEnd false => behind.isEmpty || behind.head? == some Ascii.newline
  | .lineEnd true =>
    behind.isEmpty || behind.head? == some Ascii.carriageReturn ||
      (behind.head? == some Ascii.newline && before.head? != some Ascii.carriageReturn)
  | .word unicode edge => edge.holds (.before unicode before) (.behind unicode behind)

/-- Every cut of a text in two: the bytes before it, latest first, and those behind it. -/
def cutsFrom (before : Bytes) : Bytes → List (Bytes × Bytes)
  | [] => [(before, [])]
  | b :: behind => (before, b :: behind) :: cutsFrom (b :: before) behind

/-- How these bytes are read in the text with these cuts. -/
def hopOfText (cuts : List (Bytes × Bytes)) (bytes : Bytes) : Hop :=
  ⟨.ofList (cuts.map fun (_, behind) => bytes.isPrefixOf behind), bytes.length⟩

/-- How the atom moves through the text with these cuts. -/
def Atom.hops (cuts : List (Bytes × Bytes)) : Atom → List Hop
  | .text bytes => [hopOfText cuts bytes]
  | .words texts => texts.map (hopOfText cuts)
  | .look assertion =>
    [⟨.ofList (cuts.map fun (before, behind) => assertion.holds before behind), 0⟩]
  | .byte set =>
    [⟨.ofList (cuts.map fun (_, behind) => behind.head?.any fun b => set.contains b.toNat), 1⟩]
  | .character set =>
    let members := cuts.map fun (_, behind) =>
      (Utf8.decode? behind).filter fun decoded => set.contains decoded.1
    [1, 2, 3, 4].map fun width =>
      let starts := members.map fun (member : Option (Nat × Nat)) => member.any (·.2 == width)
      ⟨.ofList starts, width⟩

/-- Whether the expression matches somewhere in the text. -/
def Expr.matchesIn (expr : Expr Atom) (text : Bytes) : Bool :=
  let cuts := cutsFrom [] text
  let positions := Positions.ofList (cuts.map fun _ => true)
  (expr.map (Atom.hops cuts)).reach (text.length + 1) positions != 0

end Amalgam.Pattern
