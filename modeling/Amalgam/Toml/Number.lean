import Amalgam.Toml.Value

namespace Amalgam.Toml

/-- The value of a digit, decimal or beyond. -/
def digit? (c : Char) : Option Nat :=
  if '0' ≤ c ∧ c ≤ '9' then some (c.toNat - '0'.toNat)
  else if 'a' ≤ c ∧ c ≤ 'f' then some (c.toNat - 'a'.toNat + 10)
  else if 'A' ≤ c ∧ c ≤ 'F' then some (c.toNat - 'A'.toNat + 10)
  else none

def digitBelow? (base : Nat) (c : Char) : Option Nat :=
  (digit? c).filter (· < base)

/-- The digits of a word that holds nothing else. -/
def plainDigits? (base : Nat) (word : List Char) : Option (List Nat) :=
  word.mapM (digitBelow? base)

/-- The digits of a word in which a single underscore may stand between two digits. -/
def digits? (base : Nat) : List Char → Option (List Nat)
  | [] => none
  | [c] => (digitBelow? base c).map ([·])
  | c :: '_' :: rest => do return (← digitBelow? base c) :: (← digits? base rest)
  | c :: rest => do return (← digitBelow? base c) :: (← digits? base rest)

def ofDigits (base : Nat) (digits : List Nat) : Nat :=
  digits.foldl (fun n digit => n * base + digit) 0

/-- Decimal digits without a superfluous zero in front. -/
def wholeDigits? (word : List Char) : Option (List Nat) :=
  (digits? 10 word).filter fun digits => digits.length == 1 || digits.head? != some 0

/-- Takes the sign off a word. -/
def unsigned : List Char → Bool × List Char
  | '-' :: rest => (true, rest)
  | '+' :: rest => (false, rest)
  | word => (false, word)

/-- Integers have 128 bits, and those above zero may do without a sign. -/
def Value.ofInt (n : Int) : Value :=
  if -170141183460469231731687303715884105728 ≤ n ∧ n < 340282366920938463463374607431768211456 then
    .integer n
  else .unreadable

/-- An integer to another base than ten. The digits may be missing, which makes no number. -/
def based? (base : Nat) (word : List Char) : Option Value :=
  if word.isEmpty then some .unreadable
  else (digits? base word).map fun digits => .ofInt (ofDigits base digits)

def integer? : List Char → Option Value
  | '0' :: 'x' :: rest => based? 16 rest
  | '0' :: 'o' :: rest => based? 8 rest
  | '0' :: 'b' :: rest => based? 2 rest
  | word =>
    let (negative, word) := unsigned word
    (wholeDigits? word).map fun digits =>
      let n : Int := ofDigits 10 digits
      .ofInt (if negative then -n else n)

/-- Doubles end halfway between the largest of them and the next power of two. -/
def Real.limit : Nat :=
  Nat.pow 2 1024 - Nat.pow 2 970

/-- Decimals from the limit on are out of range. -/
def Real.inRange : Real → Bool
  | .finite _ digits exponent =>
    let magnitude : Int := (Nat.toDigits 10 digits).length + exponent
    if digits = 0 ∨ magnitude ≤ 308 then true
    else if 309 < magnitude then false
    else if exponent < 0 then digits < limit * Nat.pow 10 exponent.natAbs
    else digits * Nat.pow 10 exponent.natAbs < limit
  | _ => true

/-- The exponent that a word ends with, if it has one. -/
def exponent? : List Char → Option Int
  | [] => some 0
  | _ :: rest =>
    let (negative, word) := unsigned rest
    (digits? 10 word).map fun digits =>
      let n : Int := ofDigits 10 digits
      if negative then -n else n

def isExponentMark (c : Char) : Bool :=
  c == 'e' || c == 'E'

/-- A number with a fraction, an exponent, or both. -/
def real? (word : List Char) : Option Value :=
  let (negative, word) := unsigned word
  if word = ['i', 'n', 'f'] then some (.real (.infinite negative))
  else if word = ['n', 'a', 'n'] then some (.real .nan)
  else do
    let mantissa := word.takeWhile (!isExponentMark ·)
    let tail := word.dropWhile (!isExponentMark ·)
    let exponent ← exponent? tail
    let whole ← wholeDigits? (mantissa.takeWhile (· != '.'))
    let fraction ← match mantissa.dropWhile (· != '.') with
      | [] => if tail.isEmpty then none else some []
      | _ :: rest => digits? 10 rest
    let real := Real.finite negative (ofDigits 10 (whole ++ fraction)) (exponent - fraction.length)
    return if real.inRange then .real real else .unreadable

def isLeapYear (year : Nat) : Bool :=
  year % 4 == 0 && (year % 100 != 0 || year % 400 == 0)

def daysIn (year month : Nat) : Nat :=
  if month = 2 then (if isLeapYear year then 29 else 28)
  else if month = 4 ∨ month = 6 ∨ month = 9 ∨ month = 11 then 30
  else 31

/-- A number of exactly so many digits at the start of a word, and the rest. -/
def fixed? (width : Nat) (word : List Char) : Option (Nat × List Char) := do
  let digits ← plainDigits? 10 (word.take width)
  if digits.length = width then some (ofDigits 10 digits, word.drop width) else none

def date? (word : List Char) : Option (Date × List Char) := do
  let (year, word) ← fixed? 4 word
  let '-' :: word := word | none
  let (month, word) ← fixed? 2 word
  let '-' :: word := word | none
  let (day, word) ← fixed? 2 word
  if 1 ≤ month ∧ month ≤ 12 ∧ 1 ≤ day ∧ day ≤ daysIn year month then some (⟨year, month, day⟩, word)
  else none

/-- The fraction of a second, if there is one. -/
def fraction? : List Char → Option (List Nat × List Char)
  | '.' :: word => do
    let digits ← plainDigits? 10 (word.takeWhile Char.isDigit)
    if digits.isEmpty then none else some (digits, word.dropWhile Char.isDigit)
  | word => some ([], word)

/-- Hours and minutes, and seconds if they are given. A minute may have a leap second. -/
def time? (word : List Char) : Option (Time × List Char) := do
  let (hour, word) ← fixed? 2 word
  let ':' :: word := word | none
  let (minute, word) ← fixed? 2 word
  let (second, fraction, word) ← match word with
    | ':' :: word => do
      let (second, word) ← fixed? 2 word
      let (fraction, word) ← fraction? word
      some (second, fraction, word)
    | word => some (0, [], word)
  if hour ≤ 23 ∧ minute ≤ 59 ∧ second ≤ 60 then some (⟨hour, minute, second, fraction⟩, word)
  else none

def offset? : List Char → Option (Option Int)
  | [] => some none
  | ['Z'] | ['z'] => some (some 0)
  | sign :: word => do
    if sign != '+' && sign != '-' then none
    let (hour, word) ← fixed? 2 word
    let ':' :: word := word | none
    let (minute, word) ← fixed? 2 word
    let minutes : Int := hour * 60 + minute
    if word = [] ∧ hour ≤ 23 ∧ minute ≤ 59 then some (some (if sign = '-' then -minutes else minutes))
    else none

def moment? (word : List Char) : Option Moment :=
  match date? word with
  | some (date, []) => some { date }
  | some (date, separator :: rest) => do
    if separator != 'T' && separator != 't' && separator != ' ' then none
    let (time, rest) ← time? rest
    return { date, time, offset := ← offset? rest }
  | none => do
    let (time, []) ← time? word | none
    some { time }

/-- The value of an unquoted word. -/
def word? (word : List Char) : Option Value :=
  if word = ['t', 'r', 'u', 'e'] then some (.boolean true)
  else if word = ['f', 'a', 'l', 's', 'e'] then some (.boolean false)
  else integer? word <|> real? word <|> (moment? word).map .moment

end Amalgam.Toml
