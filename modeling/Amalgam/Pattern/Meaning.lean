import Amalgam.Pattern.Expr
import Amalgam.Pattern.Reader
import Amalgam.Pattern.Size
import Amalgam.Unicode.CaseFolding

namespace Amalgam.Pattern

open Unicode (CodeSet)

/-- The flags that hold somewhere in a pattern, as far as they make a difference to what matches. -/
structure Mode where
  ignoreCase : Bool := false
  multiLine : Bool := false
  dotMatchesNewline : Bool := false
  unicode : Bool := true
  carriageReturns : Bool := false

namespace Mode

def set (mode : Mode) : Flag × Bool → Mode
  | (.ignoreCase, on) => { mode with ignoreCase := on }
  | (.multiLine, on) => { mode with multiLine := on }
  | (.dotMatchesNewline, on) => { mode with dotMatchesNewline := on }
  | (.unicode, on) => { mode with unicode := on }
  | (.carriageReturns, on) => { mode with carriageReturns := on }
  | (.preferShort, _) => mode
  | (.verbose, _) => mode

def change (mode : Mode) (changes : FlagChanges) : Mode :=
  changes.foldl set mode

/-- What a set can hold: characters, or bytes outside Unicode. -/
def everything (mode : Mode) : CodeSet :=
  if mode.unicode then .full else .range 0 0xFF

/-- Where case is ignored, a set has every character that is alike to one of it. Outside Unicode only
ASCII letters have another case. -/
def fold (mode : Mode) (set : CodeSet) : CodeSet :=
  if mode.ignoreCase then
    if mode.unicode then set.fold else set.foldAscii
  else set

def negate (mode : Mode) (negated : Bool) (set : CodeSet) : CodeSet :=
  if negated then mode.everything \ set else set

/-- Folds first, and negates after that. -/
def foldAndNegate (mode : Mode) (negated : Bool) (set : CodeSet) : CodeSet :=
  mode.negate negated (mode.fold set)

/-- The number of a literal in a class. Outside Unicode it must be that of one byte. -/
def code? (mode : Mode) (literal : Literal) : Option Nat :=
  if mode.unicode || literal.isByte || literal.char.toNat < 0x80 then some literal.char.toNat
  else none

end Mode

def Posix.set : Posix → CodeSet
  | .alnum => alpha ∪ digit
  | .alpha => alpha
  | .ascii => .range 0 0x7F
  | .blank => .ofPoints [0x9, 0x20]
  | .cntrl => .range 0 0x1F ∪ .singleton 0x7F
  | .digit => digit
  | .graph => graph
  | .lower => .asciiLower
  | .print => .range 0x20 0x7E
  | .punct => graph \ (alpha ∪ digit)
  | .space => .range 0x9 0xD ∪ .singleton 0x20
  | .upper => .asciiUpper
  | .word => alpha ∪ digit ∪ .singleton 0x5F
  | .xdigit => digit ∪ .range 0x41 0x46 ∪ .range 0x61 0x66
where
  alpha : CodeSet := .asciiUpper ∪ .asciiLower
  digit : CodeSet := .range 0x30 0x39
  graph : CodeSet := .range 0x21 0x7E

def Shorthand.set (mode : Mode) : Shorthand → CodeSet
  | .digit => if mode.unicode then Unicode.Category.set [.decimalNumber] else Posix.digit.set
  | .space => if mode.unicode then Unicode.whiteSpace else Posix.space.set
  | .word => if mode.unicode then Unicode.wordCharacter else Posix.word.set

def PropertyQuery.set? : PropertyQuery → Option CodeSet
  | .named name => Unicode.PropertyName.find? name
  | .valued name value => Unicode.PropertyName.findValue? name value

def SetOperation.apply (left right : CodeSet) : SetOperation → CodeSet
  | .intersection => left ∩ right
  | .difference => left \ right
  | .symmetricDifference => (left \ right) ∪ (right \ left)

namespace ClassTree

mutual

/-- The set of a class, if it has one: properties must exist, and they are those of Unicode. -/
def set? (mode : Mode) : ClassTree → Option CodeSet
  | .literal char => (mode.code? char).map .singleton
  | .range first last => do
    let first ← mode.code? first
    let last ← mode.code? last
    return .range first last
  | .posix negated name => some (mode.foldAndNegate negated name.set)
  | .property negated query =>
    if mode.unicode then query.set?.map (mode.foldAndNegate negated) else none
  | .shorthand negated name => some (mode.negate negated (name.set mode))
  | .bracketed negated body => (body.set? mode).map (mode.foldAndNegate negated)
  | .union items => unionOf? mode items
  | .operation op left right => do
    let left ← left.set? mode
    let right ← right.set? mode
    return op.apply (mode.fold left) (mode.fold right)

def unionOf? (mode : Mode) : List ClassTree → Option CodeSet
  | [] => some ∅
  | item :: items => do
    let set ← item.set? mode
    let others ← unionOf? mode items
    return set ∪ others

end

end ClassTree

/-- A character, or the characters alike to it where case is ignored. -/
def Literal.expr (mode : Mode) (literal : Literal) : Expr Atom :=
  let code := literal.char.toNat
  let isPlain := !mode.ignoreCase || (!mode.unicode && 0x80 ≤ code)
  if !mode.unicode && literal.isByte && 0x80 ≤ code then .atom (.text [code.toUInt8])
  else if isPlain then .atom (.text (Utf8.encode code))
  else .ofSet mode.unicode (mode.fold (.singleton code))

def Mode.dot (mode : Mode) : Expr Atom :=
  let ends : CodeSet :=
    if mode.dotMatchesNewline then ∅
    else if mode.carriageReturns then .ofPoints ['\n'.toNat, '\x0d'.toNat]
    else .singleton '\n'.toNat
  .ofSet mode.unicode (mode.everything \ ends)

/-- Without the multi-line flag, lines start and end where the text does. -/
def Assertion.look (mode : Mode) : Assertion → Look
  | .textStart => .textStart
  | .textEnd => .textEnd
  | .lineStart => if mode.multiLine then .lineStart mode.carriageReturns else .textStart
  | .lineEnd => if mode.multiLine then .lineEnd mode.carriageReturns else .textEnd
  | .word edge => .word mode.unicode edge

namespace Tree

mutual

/-- The expression of a pattern, and the mode behind it. Flags that stand alone hold up to the end
of the group around them, in the branches that follow, too. -/
def expr? (mode : Mode) : Tree → Option (Expr Atom × Mode)
  | .empty => some (.empty, mode)
  | .flags changes => some (.empty, mode.change changes)
  | .literal char => some (char.expr mode, mode)
  | .dot => some (mode.dot, mode)
  | .assertion what => some (.atom (.look (what.look mode)), mode)
  | .characters set => (set.set? mode).map fun set => (.ofSet mode.unicode set, mode)
  | .repetition least most body => do
    let (body, mode) ← body.expr? mode
    return (.repeated least most body, mode)
  | .group captures changes body => do
    let (body, _) ← body.expr? (mode.change changes)
    return (if captures then .capture body else body, mode)
  | .sequence items => do
    let (items, mode) ← exprsOf? mode items
    return (.concat items, mode)
  | .alternatives branches => do
    let (branches, mode) ← exprsOf? mode branches
    return (.alternation branches, mode)

def exprsOf? (mode : Mode) : List Tree → Option (List (Expr Atom) × Mode)
  | [] => some ([], mode)
  | tree :: trees => do
    let (expr, mode) ← tree.expr? mode
    let (exprs, mode) ← exprsOf? mode trees
    return (expr :: exprs, mode)

end

end Tree

/-- Compiles a pattern to a test of byte strings, if it is well-formed and not too large. The test
holds if the pattern matches anywhere. -/
def compile (text : String) : Option (Bytes → Bool) := do
  let tree ← Tree.read? text
  let (expr, _) ← tree.expr? {}
  if expr.fits then some expr.matchesIn else none

end Amalgam.Pattern
