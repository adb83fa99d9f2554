import Amalgam.Text.Bytes

namespace Amalgam

namespace Bytes

/-- Reads on with the bytes of the current line, latest first, in `current`. -/
def linesFrom (current : Bytes) : Bytes → List Bytes
  | [] => if current.isEmpty then [] else [current.reverse]
  | b :: rest =>
    if b = Ascii.newline then (b :: current).reverse :: linesFrom [] rest
    else linesFrom (b :: current) rest

/-- The first line of a file, which is empty only if the file is, and what follows it. -/
def splitFirstLine (content : Bytes) : Bytes × Bytes :=
  let body := content.takeWhile (· != Ascii.newline)
  match content.dropWhile (· != Ascii.newline) with
  | [] => (body, [])
  | newline :: rest => (body ++ [newline], rest)

/-- The lines of a file with their terminators. Only a newline ends a line, and no empty line follows the
last one. -/
def lines (content : Bytes) : List Bytes :=
  linesFrom [] content

end Bytes

/-- A line taken apart into its body and its terminator. -/
structure Line where
  body : Bytes
  terminator : Bytes
  deriving Repr, DecidableEq

/-- The terminator is a carriage return with a newline, a newline alone, or nothing. -/
def Line.ofBytes (line : Bytes) : Line :=
  match line.reverse with
  | b :: c :: rest =>
    if b = Ascii.newline then
      if c = Ascii.carriageReturn then ⟨rest.reverse, [c, b]⟩ else ⟨(c :: rest).reverse, [b]⟩
    else ⟨line, []⟩
  | [b] => if b = Ascii.newline then ⟨[], [b]⟩ else ⟨line, []⟩
  | [] => ⟨[], []⟩

end Amalgam
