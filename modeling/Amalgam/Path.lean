namespace Amalgam

/-- A path as it is written. Its segments are parted by slashes. Those that are empty or a single dot say
nothing, except a dot that opens a relative path. -/
structure Path where
  chars : List Char
  deriving Repr, DecidableEq, Inhabited

/-- A piece of a path between two slashes. -/
abbrev Segment := List Char

/-- What a path says at one place. Two paths are alike when they have the same components. -/
inductive Component where
  | root
  | here
  | up
  | name (text : Segment)
  deriving Repr, DecidableEq

namespace Segment

/-- The pieces of a text between its slashes, one more than there are slashes. -/
def split : List Char → List Segment
  | [] => [[]]
  | c :: rest =>
    if c = '/' then [] :: split rest
    else match split rest with
      | [] => [[c]]
      | segment :: more => (c :: segment) :: more

def join : List Segment → List Char
  | [] => []
  | [segment] => segment
  | segment :: more => segment ++ '/' :: join more

/-- The empty segment and the dot stay where they are. -/
def isIdle (segment : Segment) : Bool :=
  segment == [] || segment == ['.']

def isUp (segment : Segment) : Bool :=
  segment == ['.', '.']

def component (segment : Segment) : Component :=
  if segment.isUp then .up else .name segment

def trimStart (segments : List Segment) : List Segment :=
  segments.dropWhile isIdle

def trimEnd (segments : List Segment) : List Segment :=
  (segments.reverse.dropWhile isIdle).reverse

/-- What is left of `segments` behind the given names, which idle segments do not interrupt. -/
def after? : List Segment → List Segment → Option (List Segment)
  | [], segments => some segments
  | name :: names, segments =>
    match trimStart segments with
    | [] => none
    | segment :: rest => if segment = name then after? names rest else none

end Segment

/-- How a path begins: at the root, at an explicit dot, or with its first segment. -/
inductive Path.Lead where
  | none
  | root
  | here
  deriving Repr, DecidableEq

namespace Path

namespace Lead

def chars : Lead → List Char
  | none => []
  | root => ['/']
  | here => ['.']

def components : Lead → List Component
  | none => []
  | root => [.root]
  | here => [.here]

end Lead

def ofString (text : String) : Path :=
  ⟨text.toList⟩

def toString (path : Path) : String :=
  String.ofList path.chars

def isAbsolute (path : Path) : Bool :=
  path.chars.head? == some '/'

def lead (path : Path) : Lead :=
  match path.chars with
  | '/' :: _ => .root
  | ['.'] => .here
  | '.' :: '/' :: _ => .here
  | _ => .none

/-- The segments behind the lead. -/
def body (path : Path) : List Segment :=
  Segment.split (path.chars.drop path.lead.chars.length)

def ofParts (lead : Lead) (body : List Segment) : Path :=
  ⟨lead.chars ++ Segment.join body⟩

/-- The segments that say something. -/
def names (path : Path) : List Segment :=
  path.body.filter (!·.isIdle)

def components (path : Path) : List Component :=
  path.lead.components ++ path.names.map Segment.component

/-- Both paths say the same, however they are spelled. -/
def Alike (a b : Path) : Prop :=
  a.components = b.components

instance (a b : Path) : Decidable (a.Alike b) :=
  inferInstanceAs (Decidable (_ = _))

/-- An absolute second path replaces the first one. Otherwise a slash goes between the two, unless
the first one is empty or ends in a slash. -/
def join (a b : Path) : Path :=
  if b.isAbsolute then b
  else if a.chars.isEmpty || a.chars.getLast? == some '/' then ⟨a.chars ++ b.chars⟩
  else ⟨a.chars ++ '/' :: b.chars⟩

/-- The path without its last component, trimmed at its end. The root and the empty path have no
parent. -/
def parent? (path : Path) : Option Path :=
  match (Segment.trimEnd path.body).reverse with
  | [] => if path.lead = .here then some ⟨[]⟩ else none
  | _ :: before => some (ofParts path.lead (Segment.trimEnd before.reverse))

def ancestorsUpTo : Nat → Path → List Path
  | 0, _ => []
  | n + 1, path =>
    path :: match path.parent? with
      | none => []
      | some parent => ancestorsUpTo n parent

/-- The path, its parent, the parent of that, and so on. Parents get shorter, so the length of the
text bounds their number. -/
def ancestors (path : Path) : List Path :=
  ancestorsUpTo (path.chars.length + 1) path

/-- What follows the components of `base`, if the path starts with them, trimmed at its ends. -/
def relativeTo? (path base : Path) : Option Path :=
  if base.lead = .none ∧ base.names = [] then
    some (ofParts path.lead (Segment.trimEnd path.body))
  else if path.lead = base.lead then
    (Segment.after? base.names path.body).map fun rest =>
      ofParts .none (Segment.trimEnd (Segment.trimStart rest))
  else none

end Path

end Amalgam
