namespace Amalgam.Pattern

/-- What a pattern can switch on or off for the text behind the switch. -/
inductive Flag where
  | ignoreCase
  | multiLine
  | dotMatchesNewline
  | preferShort
  | unicode
  | carriageReturns
  | verbose
  deriving Repr, DecidableEq

/-- Flags in written order, each with what it is set to. -/
abbrev FlagChanges := List (Flag × Bool)

/-- A character that stands for itself. An escape of two hexadecimal digits is a byte where
characters are not read as Unicode. -/
structure Literal where
  char : Char
  isByte : Bool := false
  deriving Repr, DecidableEq

/-- Where a word begins or ends. A half edge looks at one side only. -/
inductive WordEdge where
  | boundary
  | noBoundary
  | start
  | «end»
  | startHalf
  | endHalf
  deriving Repr, DecidableEq

inductive Assertion where
  | textStart
  | textEnd
  | lineStart
  | lineEnd
  | word (edge : WordEdge)
  deriving Repr, DecidableEq

inductive Shorthand where
  | digit
  | space
  | word
  deriving Repr, DecidableEq

/-- A class of ASCII characters that has a name. -/
inductive Posix where
  | alnum | alpha | ascii | blank | cntrl | digit | graph | lower | print | punct | space | upper
  | word | xdigit
  deriving Repr, DecidableEq

def Posix.named : List (String × Posix) := [
  ("alnum", .alnum), ("alpha", .alpha), ("ascii", .ascii), ("blank", .blank), ("cntrl", .cntrl),
  ("digit", .digit), ("graph", .graph), ("lower", .lower), ("print", .print), ("punct", .punct),
  ("space", .space), ("upper", .upper), ("word", .word), ("xdigit", .xdigit)]

/-- A property by its name, or by its name and a value. -/
inductive PropertyQuery where
  | named (name : List Char)
  | valued (name value : List Char)
  deriving Repr, DecidableEq

inductive SetOperation where
  | intersection
  | difference
  | symmetricDifference
  deriving Repr, DecidableEq

/-- A set of characters. -/
inductive ClassTree where
  | literal (literal : Literal)
  | range (first last : Literal)
  | posix (negated : Bool) (name : Posix)
  | property (negated : Bool) (query : PropertyQuery)
  | shorthand (negated : Bool) (name : Shorthand)
  | bracketed (negated : Bool) (set : ClassTree)
  | union (items : List ClassTree)
  | operation (op : SetOperation) (left right : ClassTree)
  deriving Repr, Inhabited

inductive Tree where
  | empty
  | flags (changes : FlagChanges)
  | literal (literal : Literal)
  | dot
  | assertion (assertion : Assertion)
  | characters (set : ClassTree)
  | repetition (least : Nat) (most : Option Nat) (body : Tree)
  /-- a part in parentheses, which is told from others if it captures -/
  | group (captures : Bool) (changes : FlagChanges) (body : Tree)
  | sequence (items : List Tree)
  | alternatives (branches : List Tree)
  deriving Repr, Inhabited

namespace ClassTree

def ofItems : List ClassTree → ClassTree
  | [item] => item
  | items => .union items

mutual

/-- How deeply brackets, unions and operations are nested. A union of nothing is not nested. -/
def depth : ClassTree → Nat
  | .bracketed _ set => set.depth + 1
  | .union [] => 0
  | .union items => depthOfItems items + 1
  | .operation _ left right => max left.depth right.depth + 1
  | _ => 0

def depthOfItems : List ClassTree → Nat
  | [] => 0
  | item :: items => max item.depth (depthOfItems items)

end

end ClassTree

namespace Tree

def ofItems : List Tree → Tree
  | [] => .empty
  | [item] => item
  | items => .sequence items

def ofBranches : List Tree → Tree
  | [branch] => branch
  | branches => .alternatives branches

mutual

def depth : Tree → Nat
  | .characters set => set.depth
  | .repetition _ _ body => body.depth + 1
  | .group _ _ body => body.depth + 1
  | .sequence items => depthOfItems items + 1
  | .alternatives branches => depthOfItems branches + 1
  | _ => 0

def depthOfItems : List Tree → Nat
  | [] => 0
  | item :: items => max item.depth (depthOfItems items)

end

end Tree

end Amalgam.Pattern
