namespace Amalgam.Unicode

/-- The value of a hexadecimal digit in small letters, and of nothing else. -/
def hexDigitValue (c : Char) : Nat :=
  if '0' ≤ c ∧ c ≤ '9' then c.toNat - '0'.toNat
  else if 'a' ≤ c ∧ c ≤ 'f' then c.toNat - 'a'.toNat + 10
  else 0

def hexOf (digits : List Char) : Nat :=
  digits.foldl (fun n c => 16 * n + hexDigitValue c) 0

/-- The tokens of a text, with a space between each two. -/
def tokensFrom (current : List Char) : List Char → List (List Char)
  | [] => if current.isEmpty then [] else [current.reverse]
  | ' ' :: rest => current.reverse :: tokensFrom [] rest
  | c :: rest => tokensFrom (c :: current) rest

def tokens (text : String) : List (List Char) :=
  tokensFrom [] text.toList

/-- A set of code points, given by the points where membership changes in ascending order. The first
of them is the least member. -/
structure CodeSet where
  edges : List Nat
  deriving Repr, DecidableEq

namespace CodeSet

/-- Membership of `c`, given what holds below the first of the edges. -/
def memberFrom (inside : Bool) (c : Nat) : List Nat → Bool
  | [] => inside
  | edge :: edges => if c < edge then inside else memberFrom (!inside) c edges

def contains (set : CodeSet) (c : Nat) : Bool :=
  memberFrom false c set.edges

instance : EmptyCollection CodeSet := ⟨⟨[]⟩⟩

/-- All code points from the first to the last. -/
def range (first last : Nat) : CodeSet := ⟨[first, last + 1]⟩

def singleton (c : Nat) : CodeSet := range c c

def full : CodeSet := range 0 0x10FFFF

/-- The edges of the combination of two sets, given membership in each below the first edges. -/
def combineFrom (f : Bool → Bool → Bool) (left right : Bool) : List Nat → List Nat → List Nat
  | [], [] => []
  | a :: as, [] => step left right (!left) right a (combineFrom f (!left) right as [])
  | [], b :: bs => step left right left (!right) b (combineFrom f left (!right) [] bs)
  | a :: as, b :: bs =>
    if a < b then step left right (!left) right a (combineFrom f (!left) right as (b :: bs))
    else if b < a then step left right left (!right) b (combineFrom f left (!right) (a :: as) bs)
    else step left right (!left) (!right) a (combineFrom f (!left) (!right) as bs)
termination_by as bs => as.length + bs.length
where
  /-- Keeps an edge if the combination changes there. -/
  step (left right left' right' : Bool) (edge : Nat) (edges : List Nat) : List Nat :=
    if f left right == f left' right' then edges else edge :: edges

/-- The set of the code points for which `f` holds of membership in two sets. It must not hold of
those that are in neither. -/
def combine (f : Bool → Bool → Bool) (left right : CodeSet) : CodeSet :=
  ⟨combineFrom f false false left.edges right.edges⟩

instance : Union CodeSet := ⟨combine (· || ·)⟩

instance : Inter CodeSet := ⟨combine (· && ·)⟩

instance : SDiff CodeSet := ⟨combine fun left right => left && !right⟩

def unions (sets : List CodeSet) : CodeSet :=
  sets.foldl (· ∪ ·) ∅

def isAscii (set : CodeSet) : Bool :=
  set.edges.all (· ≤ 0x80)

/-- The first and last members of the runs of consecutive members. -/
def ranges (set : CodeSet) : List (Nat × Nat) :=
  go set.edges
where
  go : List Nat → List (Nat × Nat)
    | first :: behind :: edges => (first, behind - 1) :: go edges
    | _ => []

def points (set : CodeSet) : List Nat :=
  set.ranges.flatMap fun (first, last) => List.range' first (last + 1 - first)

/-- The set of ranges that are given in ascending order. Ranges that touch or overlap become one. -/
def ofRanges (ranges : List (Nat × Nat)) : CodeSet :=
  ⟨go none ranges⟩
where
  go : Option (Nat × Nat) → List (Nat × Nat) → List Nat
    | none, [] => []
    | some (first, last), [] => [first, last + 1]
    | none, range :: ranges => go (some range) ranges
    | some (first, last), (first', last') :: ranges =>
      if first' ≤ last + 1 then go (some (first, max last last')) ranges
      else first :: (last + 1) :: go (some (first', last')) ranges

def ofPoints (points : List Nat) : CodeSet :=
  ofRanges (points.mergeSort.map fun c => (c, c))

/-- A token is a code point, or the first and the last of a range with a hyphen between them. -/
def ofToken (token : List Char) : Nat × Nat :=
  let first := hexOf (token.takeWhile (· != '-'))
  match token.dropWhile (· != '-') with
  | [] => (first, first)
  | _ :: last => (first, hexOf last)

/-- The set of ranges that are written in ascending order. -/
def ofTexts (texts : List String) : CodeSet :=
  ofRanges ((texts.flatMap tokens).map ofToken)

end CodeSet

end Amalgam.Unicode
