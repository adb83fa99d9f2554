import Amalgam.Toml.Text

namespace Amalgam.Toml

namespace Entries

/-- Puts a value in place of the one at its key, or behind all others. -/
def set (key : String) (value : Value) : Entries → Entries
  | [] => [(key, value)]
  | (k, v) :: rest => if k = key then (key, value) :: rest else (k, v) :: set key value rest

/-- Follows a key from a table and lets `act` change the table that it leads to, given how that
table was written. Tables on the way that are missing are implied. A dotted key enters only tables
that are implied, and no key enters a table in braces. An array made by headers is entered at its
last table. -/
def within (dotted : Bool) (act : Origin → Entries → Option Entries) :
    List String → Origin → Entries → Option Entries
  | [], origin, entries => act origin entries
  | key :: keys, _, entries =>
    match entries.lookup key with
    | none =>
      let origin := if dotted then .dotted else .implied
      (within dotted act keys origin []).map fun inner => set key (.table origin inner) entries
    | some (.table origin inner) =>
      if origin = .inline ∨ dotted ∧ origin = .header then none
      else (within dotted act keys origin inner).map fun inner => set key (.table origin inner) entries
    | some (.array true items) =>
      match items.reverse with
      | .table origin inner :: before =>
        (within dotted act keys origin inner).map fun inner =>
          set key (.array true (before.reverse ++ [.table origin inner])) entries
      | _ => none
    | some _ => none

/-- Adds a value under a key. Only tables that dotted keys imply take values from a dotted key. -/
def insert (path : List String) (key : String) (value : Value) (origin : Origin)
    (entries : Entries) : Option Entries :=
  within true (fun origin entries =>
    if path ≠ [] ∧ origin ≠ .dotted then none
    else match entries.lookup key with
      | some _ => none
      | none => some (entries ++ [(key, value)])) path origin entries

/-- Opens the table of a header, which may be implied already but not defined. -/
def openTable (path : List String) (key : String) : Entries → Option Entries :=
  within false (fun _ entries =>
    match entries.lookup key with
    | none => some (set key (.table .header []) entries)
    | some (.table .implied inner) => some (set key (.table .header inner) entries)
    | some _ => none) path .header

/-- Adds one more table to the array of a header. -/
def openElement (path : List String) (key : String) : Entries → Option Entries :=
  within false (fun _ entries =>
    match entries.lookup key with
    | none => some (set key (.array true [.table .header []]) entries)
    | some (.array true items) => some (set key (.array true (items ++ [.table .header []])) entries)
    | some _ => none) path .header

end Entries

/-- Splits a key into its path and its last part. -/
def lastKey? (key : List String) : Option (List String × String) :=
  key.getLast?.map fun last => (key.dropLast, last)

namespace Reader

mutual

/-- A value inside so many arrays and tables. -/
def value (depth : Nat) : Nat → Reader Value
  | 0 => failure
  | n + 1 => do
    match ← peek with
    | some '"' | some '\'' => return .string (← string)
    | some '[' =>
      if depth = nestingLimit then failure
      char '['
      return .array false (← items (depth + 1) n)
    | some '\x7b' =>
      if depth = nestingLimit then failure
      char '\x7b'
      return .table .inline (← pairs (depth + 1) [] n)
    | _ =>
      match word? (← word) with
      | some value => return value
      | none => failure

/-- The items of an array up to its closing bracket. -/
def items (depth : Nat) : Nat → Reader (List Value)
  | 0 => failure
  | n + 1 => do
    gap
    if (← peek) = some ']' then
      char ']'
      return []
    let item ← value depth n
    gap
    match ← peek with
    | some ',' =>
      char ','
      return item :: (← items depth n)
    | _ =>
      char ']'
      return [item]

/-- The entries of a table up to its closing brace, added to those before. A gap may stand on either
side of the sign between key and value. -/
def pairs (depth : Nat) (entries : Entries) : Nat → Reader Entries
  | 0 => failure
  | n + 1 => do
    gap
    if (← peek) = some '\x7d' then
      char '\x7d'
      return entries
    let some (path, last) := lastKey? (← key) | failure
    gap
    char '='
    gap
    let item ← value depth n
    let some entries := entries.insert path last item .header | failure
    gap
    match ← peek with
    | some ',' =>
      char ','
      pairs depth entries n
    | _ =>
      char '\x7d'
      return entries

end

end Reader

/-- One line of a document. -/
inductive Expression where
  | blank
  | pair (path : List String) (key : String) (value : Value)
  | header (path : List String) (key : String)
  | elementHeader (path : List String) (key : String)

namespace Reader

def expression : Reader Expression := do
  blanks
  match ← get with
  | [] | '#' :: _ | '\n' :: _ | '\r' :: _ =>
    endOfLine
    return .blank
  | '[' :: '[' :: rest =>
    set rest
    let some (path, last) := lastKey? (← key) | failure
    char ']'
    char ']'
    endOfLine
    return .elementHeader path last
  | '[' :: rest =>
    set rest
    let some (path, last) := lastKey? (← key) | failure
    char ']'
    endOfLine
    return .header path last
  | text =>
    let some (path, last) := lastKey? (← key) | failure
    char '='
    blanks
    let value ← value 0 (4 * text.length)
    endOfLine
    return .pair path last value

/-- The expressions of a text. -/
def expressionsFrom : Nat → List Char → Option (List Expression)
  | 0, _ => none
  | n + 1, text =>
    if text.isEmpty then some []
    else match expression text with
      | none => none
      | some (expression, rest) => (expressionsFrom n rest).map (expression :: ·)

end Reader

/-- Adds an expression to the document, under the header that was read last. -/
def Expression.addTo (entries : Entries) (header : List String) :
    Expression → Option (Entries × List String)
  | blank => some (entries, header)
  | pair path key value => do
    let entries ← Entries.within false
      (fun origin entries => Entries.insert path key value origin entries) header .header entries
    return (entries, header)
  | Expression.header path key => do
    return (← entries.openTable path key, path ++ [key])
  | elementHeader path key => do
    return (← entries.openElement path key, path ++ [key])

/-- Adds expressions one after the other. -/
def Expression.gather (entries : Entries) (header : List String) : List Expression → Option Entries
  | [] => some entries
  | expression :: rest => do
    let (entries, header) ← expression.addTo entries header
    gather entries header rest

/-- A mark of the byte order may come first. -/
def withoutByteOrderMark : List Char → List Char
  | '\ufeff' :: chars => chars
  | chars => chars

/-- The table that the characters of a document describe. -/
def ofChars? (chars : List Char) : Option Entries := do
  let chars := withoutByteOrderMark chars
  Expression.gather [] [] (← Reader.expressionsFrom (chars.length + 1) chars)

/-- The table that a document describes. -/
def parse? (text : String) : Option Entries :=
  ofChars? text.toList

end Amalgam.Toml
