import Amalgam.Unicode.Property
import Amalgam.Unicode.Script

namespace Amalgam.Unicode

def carriageReturn : CodeSet := .range 0xD 0xD

def lineFeed : CodeSet := .range 0xA 0xA

def joiner : CodeSet := .range 0x200D 0x200D

namespace GraphemeBreak

def extend : CodeSet := (graphemeExtend ∪ emojiModifier) \ joiner

def control : CodeSet :=
  (Category.set [.lineSeparator, .paragraphSeparator, .control, .format] ∪
    (Category.set [.unassigned] ∩ defaultIgnorableCodePoint)) \
  (carriageReturn ∪ lineFeed ∪ joinControl ∪ prependedConcatenationMark ∪ extend)

/-- Consonants that are written before the cluster they belong to. -/
def consonantBefore : CodeSet := .ofTexts [
  "d4e 111c2-111c3 113d1 1193f 11941 11a3a 11a84-11a89 11d46 11f02"]

/-- Spacing marks that stand alone. -/
def standingMark : CodeSet := .ofTexts [
  "102b-102c 1038 1062-1064 1067-106d 1083 1087-108c 108f 109a-109c 1a61 1a63-1a64 aa7b aa7d",
  "11720-11721"]

/-- Vowels that are written behind the cluster they belong to. -/
def vowelBehind : CodeSet := .ofTexts ["e33 eb3"]

def leadingConsonant : CodeSet := .ofTexts ["1100-115f a960-a97c"]

def vowel : CodeSet := .ofTexts ["1160-11a7 d7b0-d7c6 16d63 16d67-16d6a"]

def trailingConsonant : CodeSet := .ofTexts ["11a8-11ff d7cb-d7fb"]

/-- The syllables without a trailing consonant. There are 28 with each pair of leading consonant and
vowel, and the first of them ends in the vowel. -/
def openSyllable : CodeSet :=
  .ofPoints ((List.range 399).map fun i => 0xAC00 + 28 * i)

def syllable : CodeSet := .range 0xAC00 0xD7A3

def values : List (List String × CodeSet) := [
  (["CR"], carriageReturn),
  (["LF"], lineFeed),
  (["Control", "CN"], control),
  (["Extend", "EX"], extend),
  (["L"], leadingConsonant),
  (["LV"], openSyllable),
  (["LVT"], syllable \ openSyllable),
  (["Prepend", "PP"], prependedConcatenationMark ∪ consonantBefore),
  (["Regional_Indicator", "RI"], regionalIndicator),
  (["SpacingMark", "SM"], (Category.set [.spacingMark] \ extend ∪ vowelBehind) \ standingMark),
  (["T"], trailingConsonant),
  (["V"], vowel),
  (["ZWJ"], joiner)]

end GraphemeBreak

/-- Marks around numbers. -/
def numberMark : CodeSet := prependedConcatenationMark \ .range 0x70F 0x70F

/-- The digits of decimal numbers. -/
def numeral : CodeSet := Category.set [.decimalNumber] ∪ .range 0x19DA 0x19DA ∪ numberMark

namespace WordBreak

/-- Signs that are written between Katakana. -/
def katakanaSign : CodeSet := .ofTexts ["3031-3035 309b-309c 30a0 30fc ff70"]

/-- Letters of scripts that put no spaces between words. -/
def unspacedLetter : CodeSet := .ofTexts [
  "e01-e30 e32-e33 e40-e46 e81-e82 e84 e86-e8a e8c-ea3 ea5 ea7-eb0 eb2-eb3 ebd ec0-ec4 ec6 edc-edf",
  "1000-102a 103f 1050-1055 105a-105d 1061 1065-1066 106e-1070 1075-1081 108e 1780-17b3 17d7 17dc",
  "1950-196d 1970-1974 1980-19ab 19b0-19c9 1a20-1a54 1aa7 a9e0-a9e4 a9e6-a9ef a9fa-a9fe aa60-aa76",
  "aa7a aa7e-aaaf aab1 aab5-aab6 aab9-aabd aac0 aac2 aadb-aadd 11700-1171a 11740-11746"]

/-- Signs that stand in words like letters. -/
def letterLike : CodeSet := .ofTexts [
  "2c2-2c5 2d2-2d7 2de-2df 2e5-2eb 2ed 2ef-2ff 55a-55c 55e 58a 5f3 70f a708-a716 a720-a721",
  "a789-a78a ab5b"]

def midLetter : CodeSet := .ofTexts ["3a b7 387 55f 5f4 2027 fe13 fe55 ff1a"]

def midNumber : CodeSet := .ofTexts ["2c 3b 37e 589 60c-60d 66c 7f8 2044 fe50 fe54 ff0c ff1b"]

def midEither : CodeSet := .ofTexts ["2e 2018-2019 2024 fe52 ff07 ff0e"]

def newline : CodeSet := .ofTexts ["b-c 85 2028-2029"]

def space : CodeSet := .ofTexts ["20 1680 2000-2006 2008-200a 205f 3000"]

def extend : CodeSet := (graphemeExtend ∪ Category.set [.spacingMark] ∪ emojiModifier) \ joiner

def format : CodeSet :=
  Category.set [.format] \
    (.range 0x200B 0x200B ∪ joinControl ∪ prependedConcatenationMark ∪ .range 0xE0020 0xE007F)

def katakana : CodeSet := Script.set "Kana" ∪ katakanaSign

def hebrewLetter : CodeSet := Script.set "Hebr" ∩ Category.set [.otherLetter]

def alphabeticLetter : CodeSet :=
  alphabetic \ (ideographic ∪ katakana ∪ hebrewLetter ∪ extend ∪ Script.set "Hira" ∪
    unspacedLetter) ∪ letterLike

def values : List (List String × CodeSet) := [
  (["CR"], carriageReturn),
  (["LF"], lineFeed),
  (["Newline", "NL"], newline),
  (["ALetter", "LE"], alphabeticLetter),
  (["Double_Quote", "DQ"], .range 0x22 0x22),
  (["Extend"], extend),
  (["ExtendNumLet", "EX"], Category.set [.connectorPunctuation] ∪ .range 0x202F 0x202F),
  (["Format", "FO"], format),
  (["Hebrew_Letter", "HL"], hebrewLetter),
  (["Katakana", "KA"], katakana),
  (["MidLetter", "ML"], midLetter),
  (["MidNum", "MN"], midNumber),
  (["MidNumLet", "MB"], midEither),
  (["Numeric", "NU"], numeral ∪ .range 0x66B 0x66B),
  (["Regional_Indicator", "RI"], regionalIndicator),
  (["Single_Quote", "SQ"], .range 0x27 0x27),
  (["WSegSpace"], space),
  (["ZWJ"], joiner)]

end WordBreak

namespace SentenceBreak

def separator : CodeSet := .ofTexts ["85 2028-2029"]

def fullStop : CodeSet := .ofTexts ["2e 2024 fe52 ff0e"]

def continuation : CodeSet := .ofTexts [
  "2c-2d 3a-3b 37e 55d 60c-60d 7f8 1802 1808 2013-2014 3001 fe10-fe11 fe13-fe14 fe31-fe32 fe50-fe51",
  "fe54-fe55 fe58 fe63 ff0c-ff0d ff1a-ff1b ff64"]

/-- Capitals that do not begin sentences. -/
def georgianCapital : CodeSet := .ofTexts ["1c90-1cba 1cbd-1cbf"]

/-- Ornaments in the shape of quotation marks. -/
def ornament : CodeSet := .ofTexts ["275b-2760 2e00-2e01 2e06-2e08 2e0b 1f676-1f678"]

/-- Wide quotation marks, which close nothing. -/
def wideQuotation : CodeSet := .ofTexts ["ff02 ff07"]

def extend : CodeSet := graphemeExtend ∪ Category.set [.spacingMark] ∪ joiner

def lower : CodeSet := lowercase \ (graphemeExtend ∪ georgianLetter)

def upper : CodeSet := (uppercase ∪ titlecase) \ georgianCapital

def terminal : CodeSet := sentenceTerminal \ fullStop

def close : CodeSet :=
  (Category.set [.openPunctuation, .closePunctuation, .initialPunctuation, .finalPunctuation] ∪
    quotationMark ∪ ornament) \ (fullStop ∪ terminal ∪ wideQuotation)

def values : List (List String × CodeSet) := [
  (["CR"], carriageReturn),
  (["LF"], lineFeed),
  (["Sep", "SE"], separator),
  (["ATerm", "AT"], fullStop),
  (["Close", "CL"], close),
  (["Extend", "EX"], extend),
  (["Format", "FO"], Category.set [.format] \ (joinControl ∪ extend ∪ numberMark)),
  (["Lower", "LO"], lower),
  (["Numeric", "NU"], numeral ∪ .range 0x66B 0x66C),
  (["OLetter", "LE"], (alphabetic ∪ .range 0x5F3 0x5F3) \ (lower ∪ upper ∪ extend)),
  (["SContinue", "SC"], continuation),
  (["STerm", "ST"], terminal),
  (["Sp"], whiteSpace \ (separator ∪ carriageReturn ∪ lineFeed)),
  (["Upper", "UP"], upper)]

end SentenceBreak

end Amalgam.Unicode
