import Amalgam.Pattern.Expr

namespace Amalgam.Pattern

open Unicode (CodeSet)

namespace Expr

/-- The items of a sequence, and an expression of another kind as the only one. -/
def items {α : Type} : Expr α → List (Expr α)
  | .empty => []
  | .sequence first rest => first :: rest.items
  | expr => [expr]

def ofItems {α : Type} : List (Expr α) → Expr α
  | [] => .empty
  | [item] => item
  | item :: items => .sequence item (ofItems items)

def isSequence {α : Type} : Expr α → Bool
  | .sequence _ _ => true
  | _ => false

/-- Captures are told from each other, so that two of them are never the same. -/
def hasCapture {α : Type} : Expr α → Bool
  | .empty => false
  | .atom _ => false
  | .capture _ => true
  | .sequence first rest => first.hasCapture || rest.hasCapture
  | .choice first rest => first.hasCapture || rest.hasCapture
  | .repetition _ _ body => body.hasCapture

/-- Whether the expression can match nothing but the empty text. -/
def isIdle : Expr Atom → Bool
  | .empty => true
  | .atom (.look _) => true
  | .atom _ => false
  | .capture body => body.isIdle
  | .sequence first rest => first.isIdle && rest.isIdle
  | .choice first rest => first.isIdle && rest.isIdle
  | .repetition _ _ body => body.isIdle

/-- What never matches. -/
def nothing : Expr Atom := .atom (.byte ∅)

/-- A character of the set, or a byte. -/
def ofSet (unicode : Bool) (set : CodeSet) : Expr Atom :=
  match set.ranges with
  | [] => nothing
  | [(first, last)] =>
    if first = last then .atom (.text (if unicode then Utf8.encode first else [first.toUInt8]))
    else .atom (if unicode then .character set else .byte set)
  | _ => .atom (if unicode then .character set else .byte set)

def joinTexts : List (Expr Atom) → List (Expr Atom)
  | [] => []
  | .atom (.text bytes) :: rest =>
    match joinTexts rest with
    | .atom (.text more) :: rest => .atom (.text (bytes ++ more)) :: rest
    | rest => .atom (.text bytes) :: rest
  | item :: rest => item :: joinTexts rest

/-- The expressions one behind the other. -/
def concat (parts : List (Expr Atom)) : Expr Atom :=
  ofItems (joinTexts (parts.flatMap items))

/-- What can match nothing but the empty text is not repeated. -/
def repeated (least : Nat) (most : Option Nat) (body : Expr Atom) : Expr Atom :=
  let (least, most) :=
    if body.isIdle then (min least 1, some (min (most.getD 1) 1)) else (least, most)
  if most = some 0 then .empty
  else if least = 1 ∧ most = some 1 then body
  else .repetition least most body

def text? : Expr Atom → Option Bytes
  | .atom (.text bytes) => some bytes
  | _ => none

/-- The set that the expression matches one character of, or one byte. A set of ASCII is both. -/
def set? (unicode : Bool) : Expr Atom → Option CodeSet
  | .atom (.character set) => if unicode || set.isAscii then some set else none
  | .atom (.byte set) => if !unicode || set.isAscii then some set else none
  | _ => none

/-- The branches of a choice, and an expression of another kind as the only one. -/
def branches : Expr Atom → List (Expr Atom)
  | .choice first rest => first :: rest.branches
  | .atom (.words texts) => texts.map fun text => .atom (.text text)
  | expr => [expr]

def ofBranches : List (Expr Atom) → Expr Atom
  | [] => nothing
  | [branch] => branch
  | branch :: branches => .choice branch (ofBranches branches)

/-- The character that the text encodes, if it is only one. -/
def character? (text : Bytes) : Option Nat :=
  match Utf8.decode? text with
  | some (c, width) => if width = text.length then some c else none
  | none => none

def byte? : Bytes → Option Nat
  | [b] => some b.toNat
  | _ => none

/-- The set that stands for a choice, if each branch is a character or a byte, or if each branch is a
set. -/
def merged? (branches : List (Expr Atom)) : Option (Expr Atom) :=
  let texts? := branches.mapM text?
  (texts?.bind (·.mapM character?)).map (ofSet true ∘ CodeSet.ofPoints) <|>
    (texts?.bind (·.mapM byte?)).map (ofSet false ∘ CodeSet.ofPoints) <|>
    (branches.mapM (set? true)).map (ofSet true ∘ CodeSet.unions) <|>
    (branches.mapM (set? false)).map (ofSet false ∘ CodeSet.unions)

/-- The choice between branches that are not choices. -/
def choiceOf (branches : List (Expr Atom)) : Expr Atom :=
  if branches.length < 2 then ofBranches branches
  else match merged? branches with
    | some set => set
    | none =>
      match branches.mapM text? with
      | some texts => .atom (.words texts)
      | none => ofBranches branches

/-- What two lists of items have in common at their start. -/
def commonStart : List (Expr Atom) → List (Expr Atom) → List (Expr Atom)
  | item :: items, other :: others =>
    if item = other ∧ !item.hasCapture then item :: commonStart items others else []
  | _, _ => []

/-- The choice between the expressions. Where all of them are sequences with the same first items,
these stand before the choice. -/
def alternation (exprs : List (Expr Atom)) : Expr Atom :=
  let branches := exprs.flatMap branches
  match branches.map items with
  | first :: second :: rest =>
    let start := (second :: rest).foldl commonStart first
    if branches.all isSequence ∧ start ≠ [] then
      let ends := (first :: second :: rest).map fun items => ofItems (items.drop start.length)
      concat (start ++ [choiceOf (ends.flatMap Expr.branches)])
    else choiceOf branches
  | _ => choiceOf branches

end Expr

end Amalgam.Pattern
