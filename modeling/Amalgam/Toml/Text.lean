import Amalgam.Toml.Number

namespace Amalgam.Toml

/-- Arrays and tables in braces nest at most this deep, and keys have at most so many parts. -/
def nestingLimit : Nat := 80

/-- Takes what it reads from the front of the text, or fails. -/
abbrev Reader := StateT (List Char) Option

namespace Reader

/-- Reads the longest run of such characters. -/
def many (p : Char → Bool) : Reader (List Char) := fun text =>
  some (text.takeWhile p, text.dropWhile p)

def isBlank (c : Char) : Bool :=
  c == ' ' || c == '\t'

def blanks : Reader Unit := fun text =>
  some ((), text.dropWhile isBlank)

/-- Tabs are the only control characters that comments and strings may hold. -/
def isTextual (c : Char) : Bool :=
  c == '\t' || (0x20 ≤ c.toNat && c.toNat != 0x7F)

def lineBreak? : List Char → Option (List Char)
  | '\n' :: rest => some rest
  | '\r' :: '\n' :: rest => some rest
  | _ => none

/-- Reads blanks, a comment if there is one, and the end of the line or of the text. -/
def endOfLine : Reader Unit := fun text =>
  let text := text.dropWhile isBlank
  let text := if text.head? = some '#' then text.dropWhile isTextual else text
  if text.isEmpty then some ((), []) else (lineBreak? text).map fun rest => ((), rest)

def gapFrom : Nat → List Char → Option (List Char)
  | 0, _ => none
  | n + 1, text =>
    let text := text.dropWhile isBlank
    let text := if text.head? = some '#' then text.dropWhile isTextual else text
    match lineBreak? text with
    | some rest => gapFrom n rest
    | none => some text

/-- Reads any blanks, line breaks and comments. -/
def gap : Reader Unit := fun text =>
  (gapFrom (text.length + 1) text).map fun rest => ((), rest)

/-- Reads exactly this character. -/
def char (c : Char) : Reader Unit
  | d :: rest => if c = d then some ((), rest) else none
  | [] => none

def peek : Reader (Option Char) := fun text =>
  some (text.head?, text)

/-- The scalar value of so many hexadecimal digits. -/
def codePoint? (width : Nat) (text : List Char) : Option (Char × List Char) := do
  let digits ← plainDigits? 16 (text.take width)
  let n := ofDigits 16 digits
  if digits.length = width ∧ n.isValidChar then some (Char.ofNat n, text.drop width) else none

/-- The character that an escape stands for, read behind its backslash. -/
def escape? : List Char → Option (Char × List Char)
  | 'b' :: rest => some ('\x08', rest)
  | 't' :: rest => some ('\t', rest)
  | 'n' :: rest => some ('\n', rest)
  | 'f' :: rest => some ('\x0c', rest)
  | 'r' :: rest => some ('\r', rest)
  | 'e' :: rest => some ('\x1b', rest)
  | '"' :: rest => some ('"', rest)
  | '\\' :: rest => some ('\\', rest)
  | 'x' :: rest => codePoint? 2 rest
  | 'u' :: rest => codePoint? 4 rest
  | 'U' :: rest => codePoint? 8 rest
  | _ => none

/-- The rest of a basic string. What is read so far stands in `acc`, latest first. -/
def basicFrom : Nat → List Char → List Char → Option (String × List Char)
  | 0, _, _ => none
  | _ + 1, acc, '"' :: rest => some (String.ofList acc.reverse, rest)
  | n + 1, acc, '\\' :: rest => do
    let (c, rest) ← escape? rest
    basicFrom n (c :: acc) rest
  | n + 1, acc, c :: rest => if isTextual c then basicFrom n (c :: acc) rest else none
  | _ + 1, _, [] => none

/-- The text behind blanks and line breaks. A carriage return alone is neither. -/
def withoutBreaks : List Char → List Char
  | '\r' :: '\n' :: rest => withoutBreaks rest
  | c :: rest => if isBlank c || c == '\n' then withoutBreaks rest else c :: rest
  | [] => []

/-- A backslash at the end of a line joins the line to the next text, whatever blanks and line
breaks come before it. -/
def joined? (text : List Char) : Option (List Char) :=
  (lineBreak? (text.dropWhile isBlank)).map withoutBreaks

/-- Closes a string over several lines. Up to two quotes may stand before the three that close. -/
def closing? (quote : Char) (acc : List Char) (text : List Char) : Option (String × List Char) :=
  let quotes := (text.takeWhile (· == quote)).length
  if quotes < 3 then none
  else
    let kept := min (quotes - 3) 2
    some (String.ofList (acc.reverse ++ List.replicate kept quote), text.drop (kept + 3))

/-- The rest of a basic string over several lines. -/
def basicLinesFrom : Nat → List Char → List Char → Option (String × List Char)
  | 0, _, _ => none
  | _ + 1, _, [] => none
  | n + 1, acc, c :: rest =>
    match closing? '"' acc (c :: rest) with
    | some done => some done
    | none =>
      if c = '\\' then
        match joined? rest with
        | some rest => basicLinesFrom n acc rest
        | none =>
          match escape? rest with
          | some (c, rest) => basicLinesFrom n (c :: acc) rest
          | none => none
      else if isTextual c || c == '\n' then basicLinesFrom n (c :: acc) rest
      else if c = '\r' ∧ rest.head? = some '\n' then basicLinesFrom n (c :: acc) rest
      else none

/-- The rest of a literal string over several lines. -/
def literalLinesFrom : Nat → List Char → List Char → Option (String × List Char)
  | 0, _, _ => none
  | _ + 1, _, [] => none
  | n + 1, acc, c :: rest =>
    match closing? '\'' acc (c :: rest) with
    | some done => some done
    | none =>
      if isTextual c || c == '\n' || (c == '\r' && rest.head? == some '\n') then
        literalLinesFrom n (c :: acc) rest
      else none

/-- A line break right behind the opening quotes is not part of the string. -/
def withoutFirstBreak (text : List Char) : List Char :=
  (lineBreak? text).getD text

/-- The rest of a literal string. -/
def literal? (text : List Char) : Option (String × List Char) :=
  let content := text.takeWhile fun c => isTextual c && c != '\''
  match text.dropWhile fun c => isTextual c && c != '\'' with
  | '\'' :: rest => some (String.ofList content, rest)
  | _ => none

/-- A string on one line, which keys may be, too. -/
def lineString : Reader String
  | '"' :: rest => basicFrom (rest.length + 1) [] rest
  | '\'' :: rest => literal? rest
  | _ => none

def string : Reader String
  | '"' :: '"' :: '"' :: rest => basicLinesFrom (rest.length + 1) [] (withoutFirstBreak rest)
  | '\'' :: '\'' :: '\'' :: rest => literalLinesFrom (rest.length + 1) [] (withoutFirstBreak rest)
  | text => lineString text

def isBare (c : Char) : Bool :=
  c.isAlphanum || c == '-' || c == '_'

def simpleKey : Reader String := do
  match ← peek with
  | some '"' | some '\'' => lineString
  | _ =>
    let key ← many isBare
    if key.isEmpty then failure else return String.ofList key

def keyFrom : Nat → Reader (List String)
  | 0 => failure
  | n + 1 => do
    blanks
    let key ← simpleKey
    blanks
    match ← peek with
    | some '.' =>
      char '.'
      return key :: (← keyFrom n)
    | _ => return [key]

/-- A key, which dots may divide into parts. -/
def key : Reader (List String) := do
  let parts ← keyFrom ((← get).length + 1)
  guard (parts.length ≤ nestingLimit)
  return parts

def isWord (c : Char) : Bool :=
  isBare c || c == '+' || c == '.' || c == ':'

/-- An unquoted word. A space may stand between a date and a time. -/
def word : Reader (List Char) := do
  let first ← many isWord
  match date? first, ← get with
  | some (_, []), ' ' :: c :: d :: ':' :: _ =>
    if c.isDigit && d.isDigit then
      char ' '
      return first ++ ' ' :: (← many isWord)
    else return first
  | _, _ => return first

end Reader

end Amalgam.Toml
