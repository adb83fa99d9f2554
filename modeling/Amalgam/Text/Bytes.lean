namespace Amalgam

/-- A byte string. Sources are handled as raw bytes, so any encoding that agrees with ASCII on the bytes
of the rules passes through unchanged. -/
abbrev Bytes := List UInt8

namespace Ascii

abbrev tab : UInt8 := 9
abbrev newline : UInt8 := 10
abbrev formFeed : UInt8 := 12
abbrev carriageReturn : UInt8 := 13
abbrev space : UInt8 := 32
abbrev doubleQuote : UInt8 := 34
abbrev singleQuote : UInt8 := 39
abbrev openParen : UInt8 := 40
abbrev closeParen : UInt8 := 41
abbrev star : UInt8 := 42
abbrev slash : UInt8 := 47
abbrev semicolon : UInt8 := 59
abbrev backslash : UInt8 := 92

/-- Blank bytes are the space, the tab, the newline, the form feed and the carriage return. The
vertical tab is not one of them. -/
def isBlank (b : UInt8) : Bool :=
  b == space || b == tab || b == newline || b == formFeed || b == carriageReturn

/-- A literal opens and closes with a double or a single quote. -/
def isQuote (b : UInt8) : Bool :=
  b == doubleQuote || b == singleQuote

end Ascii

namespace Bytes

/-- The UTF-8 encoding of a text. -/
def ofString (text : String) : Bytes :=
  text.toUTF8.data.toList

/-- The text that the bytes encode, if they are well-formed UTF-8. -/
def toString? (bytes : Bytes) : Option String :=
  String.fromUTF8? ⟨bytes.toArray⟩

def indexFrom (needle : Bytes) : Nat → Bytes → Option Nat
  | offset, [] => if needle.isEmpty then some offset else none
  | offset, b :: rest =>
    if needle.isPrefixOf (b :: rest) then some offset else indexFrom needle (offset + 1) rest

/-- Offset of the first occurrence of `needle`. The empty needle occurs at offset 0. -/
def indexOf? (haystack needle : Bytes) : Option Nat :=
  indexFrom needle 0 haystack

def contains (haystack needle : Bytes) : Bool :=
  (haystack.indexOf? needle).isSome

/-- What follows `lead`, if the bytes start with it. -/
def dropLead? (lead : Bytes) (bytes : Bytes) : Option Bytes :=
  if lead.isPrefixOf bytes then some (bytes.drop lead.length) else none

end Bytes

end Amalgam
