import Amalgam.Pattern.Tree
import Amalgam.Text.Space
import Amalgam.Unicode.Property

namespace Amalgam.Pattern

/-- Where reading stands: the text to come, whether it is verbose, and the names of the groups so
far. In a verbose part, white space and comments may stand between the signs of the pattern. -/
structure Cursor where
  rest : List Char
  verbose : Bool := false
  names : List (List Char) := []

/-- Takes what it reads from the front of the text, or fails. -/
abbrev Reader := StateT Cursor Option

namespace Reader

def peek : Reader (Option Char) := fun cursor =>
  some (cursor.rest.head?, cursor)

/-- The next character, which must exist. -/
def next : Reader Char := fun cursor =>
  match cursor.rest with
  | [] => none
  | c :: rest => some (c, { cursor with rest })

/-- Reads this text if it comes next, and tells whether it did. -/
def accept (text : String) : Reader Bool := fun cursor =>
  if text.toList.isPrefixOf cursor.rest then
    some (true, { cursor with rest := cursor.rest.drop text.length })
  else some (false, cursor)

def expect (c : Char) : Reader Unit := do
  guard ((← next) = c)

/-- The longest run of such characters. -/
def many (p : Char → Bool) : Reader (List Char) := fun cursor =>
  some (cursor.rest.takeWhile p, { cursor with rest := cursor.rest.dropWhile p })

/-- The text behind white space and comments. The flag tells whether it starts in a comment. -/
def behindGap : Bool → List Char → List Char
  | _, [] => []
  | true, c :: rest => behindGap (c != '\n') rest
  | false, c :: rest =>
    if isWhiteSpace c then behindGap false rest else if c = '#' then behindGap true rest else c :: rest

/-- Skips a gap where the text is verbose. -/
def gap : Reader Unit := fun cursor =>
  some ((), if cursor.verbose then { cursor with rest := behindGap false cursor.rest } else cursor)

def spaces : Reader Unit := do
  let _ ← many isWhiteSpace

/-- Characters with gaps behind each, as long as they pass the test. -/
def spacedFrom (p : Char → Bool) : Nat → Reader (List Char)
  | 0 => failure
  | n + 1 => do
    match ← peek with
    | none => return []
    | some c =>
      if p c then
        let _ ← next
        gap
        return c :: (← spacedFrom p n)
      else return []

def spaced (p : Char → Bool) : Reader (List Char) := do
  spacedFrom p ((← get).rest.length + 1)

def hexValue? (c : Char) : Option Nat :=
  if '0' ≤ c ∧ c ≤ '9' then some (c.toNat - '0'.toNat)
  else if 'a' ≤ c ∧ c ≤ 'f' then some (c.toNat - 'a'.toNat + 10)
  else if 'A' ≤ c ∧ c ≤ 'F' then some (c.toNat - 'A'.toNat + 10)
  else none

/-- The character whose number is written in these hexadecimal digits. -/
def scalar? (digits : List Char) : Option Char := do
  let values ← digits.mapM hexValue?
  let n := values.foldl (fun n digit => 16 * n + digit) 0
  if values ≠ [] ∧ n.isValidChar then some (Char.ofNat n) else none

/-- So many characters, with a gap behind each. -/
def exactly : Nat → Reader (List Char)
  | 0 => return []
  | n + 1 => do
    let c ← next
    gap
    return c :: (← exactly n)

/-- A number in hexadecimal, in braces or of a fixed width. -/
def hexadecimal (width : Nat) : Reader Literal := do
  gap
  if ← accept "\x7b" then
    gap
    let digits ← spaced (· != '}')
    expect '}'
    gap
    return ⟨← scalar? digits, false⟩
  else
    return ⟨← scalar? (← exactly width), width == 2⟩

/-- What a name in braces asks for, and whether it asks for all else. The first sign between name and
value counts. -/
def query (text : List Char) : Bool × PropertyQuery :=
  let rec beforeUnequal : List Char → List Char → Option (List Char × List Char)
    | acc, '!' :: '=' :: value => some (acc.reverse, value)
    | acc, c :: rest => beforeUnequal (c :: acc) rest
    | _, [] => none
  let divide (sign : Char) : Option (List Char × List Char) :=
    match text.dropWhile (· != sign) with
    | [] => none
    | _ :: value => some (text.takeWhile (· != sign), value)
  match beforeUnequal [] text with
  | some (name, value) => (true, .valued name value)
  | none =>
    match divide ':' <|> divide '=' with
    | some (name, value) => (false, .valued name value)
    | none => (false, .named text)

def property (negated : Bool) : Reader ClassTree := do
  gap
  if ← accept "\x7b" then
    gap
    let name ← spaced (· != '}')
    expect '}'
    let (isUnequal, query) := query name
    return .property (negated != isUnequal) query
  else
    let c ← next
    guard (c ≠ '\\')
    gap
    return .property negated (.named [c])

/-- Escaped, these characters stand for themselves. Letters, digits and angle brackets do not. -/
def isEscapable (c : Char) : Bool :=
  c.toNat < 0x80 && !c.isAlphanum && c != '<' && c != '>'

def wordEdgeNames : List (String × WordEdge) := [
  ("start", .start), ("end", .end), ("start-half", .startHalf), ("end-half", .endHalf)]

/-- The name in braces behind a word boundary. What stands there is a repetition if the braces do
not start with a letter or a hyphen. -/
def wordEdge : Reader WordEdge := fun cursor =>
  let isNameChar (c : Char) := c.isAlpha || c == '-'
  let named : Reader WordEdge := do
    expect '{'
    gap
    let name ← spaced isNameChar
    guard (name ≠ [])
    expect '}'
    (wordEdgeNames.find? (·.1.toList == name)).map (·.2)
  let startsName : Reader Bool := do
    expect '{'
    gap
    return isNameChar (← next)
  if cursor.rest.head? = some '{' then
    match startsName cursor with
    | none => none
    | some (true, _) => named cursor
    | some (false, _) => some (.boundary, cursor)
  else some (.boundary, cursor)

/-- What an escape stands for, read behind its backslash. -/
def escape : Reader Tree := do
  let c ← next
  match c with
  | 'x' => return .literal (← hexadecimal 2)
  | 'u' => return .literal (← hexadecimal 4)
  | 'U' => return .literal (← hexadecimal 8)
  | 'p' => return .characters (← property false)
  | 'P' => return .characters (← property true)
  | 'd' => return .characters (.shorthand false .digit)
  | 'D' => return .characters (.shorthand true .digit)
  | 's' => return .characters (.shorthand false .space)
  | 'S' => return .characters (.shorthand true .space)
  | 'w' => return .characters (.shorthand false .word)
  | 'W' => return .characters (.shorthand true .word)
  | 'a' => return .literal ⟨'\x07', false⟩
  | 'f' => return .literal ⟨'\x0c', false⟩
  | 't' => return .literal ⟨'\t', false⟩
  | 'n' => return .literal ⟨'\n', false⟩
  | 'r' => return .literal ⟨'\r', false⟩
  | 'v' => return .literal ⟨'\x0b', false⟩
  | 'A' => return .assertion .textStart
  | 'z' => return .assertion .textEnd
  | 'b' => return .assertion (.word (← wordEdge))
  | 'B' => return .assertion (.word .noBoundary)
  | '<' => return .assertion (.word .start)
  | '>' => return .assertion (.word .end)
  | c => if isEscapable c then return .literal ⟨c, false⟩ else failure

/-- The class with this name between colons, and the text behind it. -/
def posix? : List Char → Option (ClassTree × List Char)
  | '[' :: ':' :: text =>
    let negated := text.head? == some '^'
    let text := if negated then text.drop 1 else text
    let name := text.takeWhile (· != ':')
    match text.dropWhile (· != ':'), Posix.named.find? (·.1.toList == name) with
    | ':' :: ']' :: rest, some (_, posix) => some (.posix negated posix, rest)
    | _, _ => none
  | _ => none

/-- One character of a class, escaped or plain. -/
def classAtom : Reader ClassTree := do
  match ← next with
  | '\\' =>
    match ← escape with
    | .literal literal => return .literal literal
    | .characters set => return set
    | _ => failure
  | c => return .literal ⟨c, false⟩

/-- The next character but for white space. In verbose text it is sought behind the sign that opens
a comment, too, and is the white space itself if nothing else follows. -/
def peekBehindSpace (verbose : Bool) (text : List Char) : Option Char :=
  if verbose then
    let behind := text.dropWhile isWhiteSpace
    let behind := if behind.head? = some '#' then (behind.drop 1).dropWhile isWhiteSpace else behind
    behind.head? <|> text.head?
  else text.head?

/-- A character of a class, or a range of them. A hyphen before a closing bracket or before another
hyphen does not make a range. -/
def classItem : Reader ClassTree := do
  let first ← classAtom
  gap
  let cursor ← get
  match cursor.rest with
  | [] => failure
  | c :: rest =>
    let behind := peekBehindSpace cursor.verbose rest
    if c != '-' || behind == some ']' || behind == some '-' then return first
    else
      let _ ← next
      gap
      match first, ← classAtom with
      | .literal first, .literal last =>
        guard (first.char ≤ last.char)
        return .range first last
      | _, _ => failure

/-- The hyphens, or the closing bracket, with which a class may begin. -/
def classLead : Reader (List ClassTree) := do
  let hyphens ← spaced (· == '-')
  if hyphens.isEmpty && (← accept "]") then
    gap
    return [.literal ⟨']', false⟩]
  else return hyphens.map fun c => .literal ⟨c, false⟩

def operation : Reader (Option SetOperation) := do
  if ← accept "&&" then return some .intersection
  else if ← accept "--" then return some .difference
  else if ← accept "~~" then return some .symmetricDifference
  else return none

/-- Operations bind equally and to the left. -/
def combine (left : Option (ClassTree × SetOperation)) (items : List ClassTree) : ClassTree :=
  match left with
  | none => .ofItems items.reverse
  | some (left, op) => .operation op left (.ofItems items.reverse)

/-- The rest of a class behind its opening bracket. What stands before the last operation is `left`,
and what follows that is `items`, latest first. -/
def classFrom : Nat → Option (ClassTree × SetOperation) → List ClassTree → Reader ClassTree
  | 0, _, _ => failure
  | n + 1, left, items => do
    gap
    if ← accept "]" then return combine left items
    match posix? (← get).rest with
    | some (item, rest) =>
      modify ({ · with rest })
      classFrom n left (item :: items)
    | none =>
      if ← accept "[" then
        gap
        let negated ← accept "^"
        if negated then gap
        let lead ← classLead
        let set ← classFrom n none lead.reverse
        classFrom n left (.bracketed negated set :: items)
      else
        match ← operation with
        | some op => classFrom n (some (combine left items, op)) []
        | none =>
          let item ← classItem
          classFrom n left (item :: items)

/-- A class, read behind its opening bracket. -/
def bracketed : Reader ClassTree := do
  gap
  let negated ← accept "^"
  if negated then gap
  let lead ← classLead
  return .bracketed negated (← classFrom ((← get).rest.length + 1) none lead.reverse)

/-- A count of at most 32 bits. -/
def decimal : Reader Nat := do
  spaces
  let digits ← spaced Char.isDigit
  spaces
  let n := digits.foldl (fun n digit => 10 * n + (digit.toNat - '0'.toNat)) 0
  guard (digits ≠ [] ∧ n < 4294967296)
  return n

/-- The bounds of a counted repetition, read behind their opening brace. -/
def counts : Reader (Nat × Option Nat) := do
  gap
  let least ← decimal
  if ← accept "," then
    gap
    if ← accept "\x7d" then return (least, none)
    let most ← decimal
    expect '}'
    guard (least ≤ most)
    return (least, some most)
  else
    expect '}'
    return (least, some least)

/-- The last item, repeated. A mark for the shorter match makes no difference to what matches. -/
def repeated (items : List Tree) (least : Nat) (most : Option Nat) : Reader (List Tree) := do
  let _ ← accept "?"
  match items with
  | [] | .flags _ :: _ => failure
  | item :: items => return .repetition least most item :: items

def flag? : Char → Option Flag
  | 'i' => some .ignoreCase
  | 'm' => some .multiLine
  | 's' => some .dotMatchesNewline
  | 'U' => some .preferShort
  | 'u' => some .unicode
  | 'R' => some .carriageReturns
  | 'x' => some .verbose
  | _ => none

/-- Flags behind the hyphen are switched off. There is at most one hyphen, and it is not last. -/
def flagChanges? (on : Bool) : List Char → Option FlagChanges
  | [] => some []
  | '-' :: rest => if on ∧ rest ≠ [] then flagChanges? false rest else none
  | c :: rest => do
    let flag ← flag? c
    let changes ← flagChanges? on rest
    return (flag, on) :: changes

def flags : Reader FlagChanges := do
  let changes ← flagChanges? true (← many fun c => c != ':' && c != ')')
  guard (changes.map (·.1)).Nodup
  return changes

/-- A group's name starts with a letter or an underscore and is new. -/
def groupName : Reader Unit := do
  let name ← many (· != '>')
  expect '>'
  let isLetter (c : Char) := c == '_' || Unicode.nameStart.contains c.toNat
  let isInner (c : Char) :=
    isLetter c || c == '.' || c == '[' || c == ']' || Unicode.nameInner.contains c.toNat
  let cursor ← get
  guard (name.head?.any isLetter && name.all isInner && !cursor.names.contains name)
  set { cursor with names := name :: cursor.names }

/-- What stands behind an opening parenthesis: the flags of a group, or those of the rest of the
group around. -/
inductive Opening where
  | group (captures : Bool) (changes : FlagChanges)
  | rest (changes : FlagChanges)

def opening : Reader Opening := do
  gap
  if (← accept "?P<") || (← accept "?<") then
    groupName
    return .group true []
  else if ← accept "?" then
    let changes ← flags
    match ← next with
    | ')' =>
      guard (changes ≠ [])
      return .rest changes
    | _ => return .group false changes
  else return .group true []

/-- Sets the verbosity that the changes ask for. -/
def setVerbose (changes : FlagChanges) : Reader Unit := do
  match changes.find? (·.1 == .verbose) with
  | some (_, on) => modify ({ · with verbose := on })
  | none => return

/-- The rest of a group, up to its closing parenthesis or the end of the text. Finished branches
stand in `branches` and the items of the current one in `items`, both latest first. -/
def branchesFrom : Nat → List Tree → List Tree → Reader Tree
  | 0, _, _ => failure
  | n + 1, branches, items => do
    gap
    match ← peek with
    | none | some ')' => return .ofBranches (.ofItems items.reverse :: branches).reverse
    | some c =>
      let _ ← next
      match c with
      | '|' => branchesFrom n (.ofItems items.reverse :: branches) []
      | '(' =>
        match ← opening with
        | .rest changes =>
          setVerbose changes
          branchesFrom n branches (.flags changes :: items)
        | .group captures changes =>
          let outside := (← get).verbose
          setVerbose changes
          let body ← branchesFrom n [] []
          modify ({ · with verbose := outside })
          expect ')'
          branchesFrom n branches (.group captures changes body :: items)
      | '?' => branchesFrom n branches (← repeated items 0 (some 1))
      | '*' => branchesFrom n branches (← repeated items 0 none)
      | '+' => branchesFrom n branches (← repeated items 1 none)
      | '{' =>
        let (least, most) ← counts
        gap
        branchesFrom n branches (← repeated items least most)
      | '[' => branchesFrom n branches (.characters (← bracketed) :: items)
      | '\\' => branchesFrom n branches ((← escape) :: items)
      | '.' => branchesFrom n branches (.dot :: items)
      | '^' => branchesFrom n branches (.assertion .lineStart :: items)
      | '$' => branchesFrom n branches (.assertion .lineEnd :: items)
      | c => branchesFrom n branches (.literal ⟨c, false⟩ :: items)

end Reader

/-- Deeper patterns are refused. -/
def nestingLimit : Nat := 250

/-- The pattern that a text writes, if it is well-formed. -/
def Tree.read? (text : String) : Option Tree := do
  let (tree, cursor) ← Reader.branchesFrom (text.length + 1) [] [] { rest := text.toList }
  if cursor.rest = [] ∧ tree.depth ≤ nestingLimit then some tree else none

end Amalgam.Pattern
