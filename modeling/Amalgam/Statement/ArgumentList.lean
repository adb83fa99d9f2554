import Amalgam.Text.Bytes

namespace Amalgam

namespace ArgumentList

/-- Offset just past the parenthesis that closes the list, reading on from offset `offset` inside
`depth` parentheses and, possibly, a literal. A backslash inside a literal hides the next byte. -/
def close : Option UInt8 → Nat → Nat → Bytes → Option Nat
  | _, _, _, [] => none
  | some quote, depth, offset, b :: rest =>
    if b = Ascii.backslash then
      match rest with
      | [] => none
      | _ :: rest => close (some quote) depth (offset + 2) rest
    else close (if b = quote then none else some quote) depth (offset + 1) rest
  | none, depth, offset, b :: rest =>
    if b = Ascii.openParen then close none (depth + 1) (offset + 1) rest
    else if b = Ascii.closeParen then
      if depth ≤ 1 then some (offset + 1) else close none (depth - 1) (offset + 1) rest
    else close (if Ascii.isQuote b then some b else none) depth (offset + 1) rest

/-- Offset just past the argument list that opens at or after `start`. There is none when the first
byte that is not blank is not an opening parenthesis, or when the list does not close. -/
def end? (bytes : Bytes) (start : Nat) : Option Nat :=
  let rest := bytes.drop start
  let blanks := (rest.takeWhile Ascii.isBlank).length
  let list := rest.drop blanks
  if list.head? = some Ascii.openParen then close none 0 (start + blanks) list else none

end ArgumentList

end Amalgam
