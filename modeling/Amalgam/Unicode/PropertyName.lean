import Amalgam.Unicode.Age
import Amalgam.Unicode.Break

namespace Amalgam.Unicode

namespace PropertyName

/-- The form in which names are compared, without regard to case, spaces, underscores, hyphens and a
leading `is`. The name `isc` keeps its first letters, for else it would read as a category. -/
def normalize (name : List Char) : List Char :=
  let lowered := name.map Char.toLower
  let startsWithIs := lowered.take 2 == ['i', 's']
  let rest := if startsWithIs then lowered.drop 2 else lowered
  let plain := rest.filter fun c => c.toNat < 0x80 && c != ' ' && c != '_' && c != '-'
  if startsWithIs && plain == ['c'] then ['i', 's', 'c'] else plain

def isNamed (name : List Char) (aliases : List String) : Bool :=
  aliases.any fun candidate => normalize candidate.toList == name

/-- The set that stands under a name. -/
def lookup? (name : List Char) (table : List (List String × CodeSet)) : Option CodeSet :=
  (table.find? fun (aliases, _) => isNamed name aliases).map (·.2)

/-- The properties that are sets. -/
def binary : List (List String × CodeSet) := [
  (["ASCII_Hex_Digit", "AHex"], asciiHexDigit),
  (["Alphabetic", "Alpha"], alphabetic),
  (["Bidi_Control", "Bidi_C"], bidiControl),
  (["Bidi_Mirrored", "Bidi_M"], bidiMirrored),
  (["Case_Ignorable", "CI"], caseIgnorable),
  (["Cased"], cased),
  (["Changes_When_Casefolded", "CWCF"], changesWhenCasefolded),
  (["Changes_When_Casemapped", "CWCM"], changesWhenCasemapped),
  (["Changes_When_Lowercased", "CWL"], changesWhenLowercased),
  (["Changes_When_Titlecased", "CWT"], changesWhenTitlecased),
  (["Changes_When_Uppercased", "CWU"], changesWhenUppercased),
  (["Dash"], dash),
  (["Default_Ignorable_Code_Point", "DI"], defaultIgnorableCodePoint),
  (["Deprecated", "Dep"], deprecated),
  (["Diacritic", "Dia"], diacritic),
  (["Emoji"], emoji),
  (["Emoji_Component", "EComp"], emojiComponent),
  (["Emoji_Modifier", "EMod"], emojiModifier),
  (["Emoji_Modifier_Base", "EBase"], emojiModifierBase),
  (["Emoji_Presentation", "EPres"], emojiPresentation),
  (["Extended_Pictographic", "ExtPict"], extendedPictographic),
  (["Extender", "Ext"], extender),
  (["Grapheme_Base", "Gr_Base"], graphemeBase),
  (["Grapheme_Extend", "Gr_Ext"], graphemeExtend),
  (["Grapheme_Link", "Gr_Link"], graphemeLink),
  (["Hex_Digit", "Hex"], hexDigit),
  (["Hyphen"], hyphen),
  (["IDS_Binary_Operator", "IDSB"], idsBinaryOperator),
  (["IDS_Trinary_Operator", "IDST"], idsTrinaryOperator),
  (["IDS_Unary_Operator", "IDSU"], idsUnaryOperator),
  (["ID_Compat_Math_Continue"], idCompatMathContinue),
  (["ID_Compat_Math_Start"], idCompatMathStart),
  (["ID_Continue", "IDC"], idContinue),
  (["ID_Start", "IDS"], idStart),
  (["Ideographic", "Ideo"], ideographic),
  (["Join_Control", "Join_C"], joinControl),
  (["Logical_Order_Exception", "LOE"], logicalOrderException),
  (["Lowercase", "Lower"], lowercase),
  (["Math"], math),
  (["Modifier_Combining_Mark", "MCM"], modifierCombiningMark),
  (["Noncharacter_Code_Point", "NChar"], noncharacterCodePoint),
  (["Other_Alphabetic", "OAlpha"], otherAlphabetic),
  (["Other_Default_Ignorable_Code_Point", "ODI"], otherDefaultIgnorableCodePoint),
  (["Other_Grapheme_Extend", "OGr_Ext"], otherGraphemeExtend),
  (["Other_ID_Continue", "OIDC"], otherIDContinue),
  (["Other_ID_Start", "OIDS"], otherIDStart),
  (["Other_Lowercase", "OLower"], otherLowercase),
  (["Other_Math", "OMath"], otherMath),
  (["Other_Uppercase", "OUpper"], otherUppercase),
  (["Pattern_Syntax", "Pat_Syn"], patternSyntax),
  (["Pattern_White_Space", "Pat_WS"], patternWhiteSpace),
  (["Prepended_Concatenation_Mark", "PCM"], prependedConcatenationMark),
  (["Quotation_Mark", "QMark"], quotationMark),
  (["Radical"], radical),
  (["Regional_Indicator", "RI"], regionalIndicator),
  (["Sentence_Terminal", "STerm"], sentenceTerminal),
  (["Soft_Dotted", "SD"], softDotted),
  (["Terminal_Punctuation", "Term"], terminalPunctuation),
  (["Unified_Ideograph", "UIdeo"], unifiedIdeograph),
  (["Uppercase", "Upper"], uppercase),
  (["Variation_Selector", "VS"], variationSelector),
  (["White_Space", "WSpace", "space"], whiteSpace),
  (["XID_Continue", "XIDC"], xidContinue),
  (["XID_Start", "XIDS"], xidStart)]

/-- The names of the categories, of several together, and of what is assigned or in ASCII. There is
no set of surrogates, for no text holds one. -/
def categories : List (List String × CodeSet) :=
  [(["Any"], .full),
    (["Assigned"], .full \ Category.set [.unassigned]),
    (["ASCII"], .range 0 0x7F),
    (["L", "Letter"], letter),
    (["LC", "Cased_Letter"],
      Category.set [.uppercaseLetter, .lowercaseLetter, .titlecaseLetter]),
    (["M", "Mark", "Combining_Mark"], mark),
    (["N", "Number"], number),
    (["P", "Punctuation", "punct"], Category.set [
      .connectorPunctuation, .dashPunctuation, .openPunctuation, .closePunctuation,
      .initialPunctuation, .finalPunctuation, .otherPunctuation]),
    (["S", "Symbol"], Category.set [
      .mathSymbol, .currencySymbol, .modifierSymbol, .otherSymbol]),
    (["Z", "Separator"], Category.set [.spaceSeparator, .lineSeparator, .paragraphSeparator]),
    (["C", "Other"], Category.set [.control, .format, .surrogate, .privateUse, .unassigned]),
    (["cntrl"], Category.set [.control]),
    (["digit"], Category.set [.decimalNumber])] ++
  (Category.all.filter (· != .surrogate)).map fun category =>
    ([category.code, category.longName], Category.set [category])

/-- The code of a script. -/
def script? (name : List Char) : Option String :=
  (Script.names.find? fun (code, longNames) => isNamed name (code :: longNames)).map (·.1)

/-- The set that a name stands for: a property, a category or a script. -/
def find? (name : List Char) : Option CodeSet :=
  let name := normalize name
  lookup? name binary <|> lookup? name categories <|> (script? name).map Script.set

/-- The set of the code points for which a property has a value. The value of an age is a version,
and all that was assigned up to it counts. -/
def findValue? (property value : List Char) : Option CodeSet :=
  let property := normalize property
  let value := normalize value
  if isNamed property ["General_Category", "gc"] then lookup? value categories
  else if isNamed property ["Script", "sc"] then (script? value).map Script.set
  else if isNamed property ["Script_Extensions", "scx"] then (script? value).map Script.users
  else if isNamed property ["Age"] then lookup? value Age.assigned
  else if isNamed property ["Grapheme_Cluster_Break", "GCB"] then lookup? value GraphemeBreak.values
  else if isNamed property ["Word_Break", "WB"] then lookup? value WordBreak.values
  else if isNamed property ["Sentence_Break", "SB"] then lookup? value SentenceBreak.values
  else none

end PropertyName

end Amalgam.Unicode
