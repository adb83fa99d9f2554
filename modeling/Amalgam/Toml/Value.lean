namespace Amalgam.Toml

structure Date where
  year : Nat
  month : Nat
  day : Nat
  deriving Repr, DecidableEq

structure Time where
  hour : Nat
  minute : Nat
  second : Nat := 0
  /-- the digits of the fraction of the second -/
  fraction : List Nat := []
  deriving Repr, DecidableEq

/-- A date, a time, or both, and with both possibly an offset in minutes. -/
structure Moment where
  date : Option Date := none
  time : Option Time := none
  offset : Option Int := none
  deriving Repr, DecidableEq

/-- A number with a fraction or an exponent, as it is written. -/
inductive Real where
  | finite (negative : Bool) (digits : Nat) (exponent : Int)
  | infinite (negative : Bool)
  | nan
  deriving Repr, DecidableEq

/-- How a table came into the document, which decides what may be added to it later. -/
inductive Origin where
  /-- written in braces, and closed after that -/
  | inline
  /-- the table of a header -/
  | header
  /-- implied by the longer key of a header -/
  | implied
  /-- implied by the dotted key of a value -/
  | dotted
  deriving Repr, DecidableEq

inductive Value where
  | string (text : String)
  | integer (n : Int)
  | real (x : Real)
  /-- a number that is written well and yet stands for none, being out of range or without digits -/
  | unreadable
  | boolean (b : Bool)
  | moment (m : Moment)
  /-- an array, which grows by headers in double brackets if it was made by them -/
  | array (ofHeaders : Bool) (items : List Value)
  | table (origin : Origin) (entries : List (String × Value))
  deriving Repr, Inhabited

/-- The entries of a table in the order in which their keys first appear. -/
abbrev Entries := List (String × Value)

namespace Value

mutual

/-- Whether every number in the value can be read. -/
def isReadable : Value → Bool
  | unreadable => false
  | array _ items => areReadable items
  | table _ entries => entriesAreReadable entries
  | _ => true

def areReadable : List Value → Bool
  | [] => true
  | item :: items => item.isReadable && areReadable items

def entriesAreReadable : List (String × Value) → Bool
  | [] => true
  | (_, value) :: entries => value.isReadable && entriesAreReadable entries

end

end Value

end Amalgam.Toml
