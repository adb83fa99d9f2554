import Amalgam.Text.Bytes

namespace Amalgam

/-- What surrounds the next byte of a line. -/
inductive Place where
  | code
  | comment
  | literal (quote : UInt8)
  deriving Repr, DecidableEq

/-- What the scanner remembers from one line to the next. -/
structure Scanner where
  inBlockComment : Bool := false
  deriving Repr, DecidableEq

namespace Scanner

/-- The scanner after a line that ends in this place: literals end with their line, and block
comments do not. -/
def ofPlace (place : Place) : Scanner :=
  ⟨place == .comment⟩

def place (scanner : Scanner) : Place :=
  if scanner.inBlockComment then .comment else .code

/-- Scans on from `place` at offset `offset` for a semicolon that ends a statement. Raw string literals
and continued lines are not recognised. -/
def scan : Place → Nat → Bytes → Option Nat × Scanner
  | place, _, [] => (none, ofPlace place)
  | place, offset, [b] =>
    if place = .code ∧ b = Ascii.semicolon then (some offset, ofPlace .code) else (none, ofPlace place)
  | .code, offset, b :: c :: rest =>
    if b = Ascii.slash ∧ c = Ascii.slash then (none, ofPlace .code)
    else if b = Ascii.slash ∧ c = Ascii.star then scan .comment (offset + 2) rest
    else if b = Ascii.semicolon then (some offset, ofPlace .code)
    else scan (if Ascii.isQuote b then .literal b else .code) (offset + 1) (c :: rest)
  | .comment, offset, b :: c :: rest =>
    if b = Ascii.star ∧ c = Ascii.slash then scan .code (offset + 2) rest
    else scan .comment (offset + 1) (c :: rest)
  | .literal quote, offset, b :: c :: rest =>
    if b = Ascii.backslash then scan (.literal quote) (offset + 2) rest
    else scan (if b = quote then .code else .literal quote) (offset + 1) (c :: rest)

/-- Offset of the first semicolon of a line that is outside literals and comments, and the scanner
for the next line. Nothing is read behind that semicolon. -/
def findTerminator (scanner : Scanner) (line : Bytes) : Option Nat × Scanner :=
  scan scanner.place 0 line

end Scanner

end Amalgam
