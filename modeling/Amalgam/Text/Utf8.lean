import Amalgam.Text.Bytes

namespace Amalgam.Utf8

def isContinuation (b : UInt8) : Bool :=
  0x80 ≤ b && b < 0xC0

/-- How many bytes the encoding has that starts with this one, what the first byte adds to the code
point, and the least code point that is written so. -/
def lead? (b : UInt8) : Option (Nat × Nat × Nat) :=
  if b < 0x80 then some (1, b.toNat, 0)
  else if b < 0xC0 then none
  else if b < 0xE0 then some (2, b.toNat - 0xC0, 0x80)
  else if b < 0xF0 then some (3, b.toNat - 0xE0, 0x800)
  else if b < 0xF8 then some (4, b.toNat - 0xF0, 0x10000)
  else none

/-- The code point whose encoding comes first, and the length of the encoding. -/
def decode? : Bytes → Option (Nat × Nat)
  | [] => none
  | b :: rest =>
    match lead? b with
    | none => none
    | some (width, first, least) =>
      let tail := rest.take (width - 1)
      let c := tail.foldl (fun c b => 64 * c + (b.toNat - 0x80)) first
      if tail.length + 1 = width ∧ tail.all isContinuation ∧ least ≤ c ∧ c.isValidChar then
        some (c, width)
      else none

/-- The code point that starts at the last byte that can start one, among four. The bytes come
latest first. Those behind the encoding are not looked at. -/
def decodeLast? (before : Bytes) : Option Nat :=
  let tail := ((before.take 3).takeWhile isContinuation).length
  (decode? (before.take (tail + 1)).reverse).map (·.1)

/-- Encodings of one length, given by the first and the last byte that each place may hold. -/
abbrev Form := List (Nat × Nat)

/-- The forms of the numbers from the first to the last. The first byte adds to `lead` what does not
fit into the bytes behind it, which hold six bits each. -/
def formsOf (lead : Nat) : (behind first last : Nat) → List Form
  | 0, first, last => [[(lead + first, lead + last)]]
  | behind + 1, first, last =>
    let unit := Nat.pow 64 (behind + 1)
    let within (high first last : Nat) : List Form :=
      (formsOf 0x80 behind first last).map ((lead + high, lead + high) :: ·)
    let low := first / unit
    let high := last / unit
    if low = high then within low (first % unit) (last % unit)
    else
      let startsWhole := first % unit = 0
      let endsWhole := last % unit = unit - 1
      let next := if startsWhole then low else low + 1
      let stop := if endsWhole then high + 1 else high
      (if startsWhole then [] else within low (first % unit) (unit - 1)) ++
        (if next < stop then
          [(lead + next, lead + stop - 1) :: List.replicate (behind + 1) (0x80, 0xBF)]
        else []) ++
        (if endsWhole then [] else within high 0 (last % unit))

/-- What the first byte adds to, the number of bytes behind it, and the code points that are written
so. -/
def lengths : List (Nat × Nat × Nat × Nat) := [
  (0, 0, 0, 0x7F), (0xC0, 1, 0x80, 0x7FF), (0xE0, 2, 0x800, 0xFFFF), (0xF0, 3, 0x10000, 0x10FFFF)]

/-- The forms of the encodings of the code points from the first to the last, in ascending order. -/
def forms (first last : Nat) : List Form :=
  lengths.flatMap fun (lead, behind, least, most) =>
    if max first least ≤ min last most then formsOf lead behind (max first least) (min last most)
    else []

/-- The encoding of a code point. -/
def encode (c : Nat) : Bytes :=
  Bytes.ofString (String.singleton (Char.ofNat c))

end Amalgam.Utf8
