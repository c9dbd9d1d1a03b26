import GridPolicy.Pattern.Unicode.DerivedProperty
import GridPolicy.Pattern.Unicode.Script

/-!
# Breaks

What a code point does where a text is broken into graphemes, words or sentences.
For each of the three every code point has one value in Unicode 16.0; most values
follow from categories and properties with few exceptions.
-/
namespace GridPolicy.Pattern.Unicode

/-- Invisible letters, which spell out tags. -/
def tagCharacters : CharSet := .range 0xE0020 0xE007F

/-- The two characters that join and keep apart. -/
def joiners : CharSet := .range 0x200C 0x200D

/-- The characters that direct how others are shown. -/
def plainFormats : CharSet :=
  format.difference (.unions [joiners, prependedConcatenationMark, tagCharacters])

namespace Grapheme

def extend : CharSet := graphemeExtend.union emojiModifier

def control : CharSet :=
  (CharSet.unions [lineSeparator, paragraphSeparator, Unicode.control, plainFormats,
    unassigned.intersection defaultIgnorableCodePoint]).difference (.ofText "A D")

/-- Vowel signs that take up room, though they are letters. -/
def otherSpacing : CharSet := .ofText "E33 EB3"

/-- Spacing marks that do not hold on to what is before them. -/
def standaloneMarks : CharSet := .ofText
  "102B-102C 1038 1062-1064 1067-106D 1083 1087-108C 108F 109A-109C 1A61 1A63-1A64 AA7B AA7D
    11720-11721"

def spacing : CharSet :=
  (spacingMark.difference (extend.union standaloneMarks)).union otherSpacing

/-- Signs that hold on to what is behind them. -/
def leadingSigns : CharSet := .ofText
  "D4E 111C2-111C3 113D1 1193F 11941 11A3A 11A84-11A89 11D46 11F02"

def prepend : CharSet := prependedConcatenationMark.union leadingSigns

/-- The first and the last of the Hangul syllables. -/
def firstSyllable : Nat := 0xAC00

def lastSyllable : Nat := 0xD7A3

/-- Syllables without a final consonant: every twenty-eighth. -/
def openSyllables : CharSet :=
  .ofRanges ((List.range ((lastSyllable - firstSyllable) / 28 + 1)).map fun i =>
    (firstSyllable + 28 * i, firstSyllable + 28 * i))

/-- Syllables with a final consonant. -/
def closedSyllables : CharSet := (CharSet.range firstSyllable lastSyllable).difference openSyllables

/-- The values by their names. -/
def values : List (List String × CharSet) :=
  [(["cr"], .ofText "D"),
   (["cn", "control"], control),
   (["ex", "extend"], extend),
   (["l"], .ofText "1100-115F A960-A97C"),
   (["lf"], .ofText "A"),
   (["lv"], openSyllables),
   (["lvt"], closedSyllables),
   (["pp", "prepend"], prepend),
   (["ri", "regionalindicator"], Unicode.regionalIndicator),
   (["sm", "spacingmark"], spacing),
   (["t"], .ofText "11A8-11FF D7CB-D7FB"),
   (["v"], .ofText "1160-11A7 D7B0-D7C6 16D63 16D67-16D6A"),
   (["zwj"], .ofText "200D")]

end Grapheme

namespace Word

def extend : CharSet :=
  (CharSet.unions [graphemeExtend, spacingMark, emojiModifier]).difference (.ofText "200D")

def hebrewLetter : CharSet := .ofText
  "5D0-5EA 5EF-5F2 FB1D FB1F-FB28 FB2A-FB36 FB38-FB3C FB3E FB40-FB41 FB43-FB44 FB46-FB4F"

def katakana : CharSet := .ofText
  "3031-3035 309B-309C 30A0-30FA 30FC-30FF 31F0-31FF 32D0-32FE 3300-3357 FF66-FF9D 1AFF0-1AFF3
    1AFF5-1AFFB 1AFFD-1AFFE 1B000 1B120-1B122 1B155 1B164-1B167"

/-- Signs that belong to words, though they are not letters. -/
def wordSigns : CharSet := .ofText
  "2C2-2C5 2D2-2D7 2DE-2DF 2E5-2EB 2ED 2EF-2FF 55A-55C 55E 58A 5F3 70F A708-A716 A720-A721
    A789-A78A AB5B"

/-- Letters of scripts that put no blanks between words. -/
def unspacedLetters : CharSet := .ofText
  "E01-E30 E32-E33 E40-E46 E81-E82 E84 E86-E8A E8C-EA3 EA5 EA7-EB0 EB2-EB3 EBD EC0-EC4 EC6 EDC-EDF
    1000-102A 103F 1050-1055 105A-105D 1061 1065-1066 106E-1070 1075-1081 108E 1780-17B3 17D7 17DC
    1950-196D 1970-1974 1980-19AB 19B0-19C9 1A20-1A54 1AA7 A9E0-A9E4 A9E6-A9EF A9FA-A9FE AA60-AA76
    AA7A AA7E-AAAF AAB1 AAB5-AAB6 AAB9-AABD AAC0 AAC2 AADB-AADD 11700-1171A 11740-11746"

def letter : CharSet :=
  (alphabetic.difference (.unions [ideographic, katakana, hebrewLetter, hiraganaScript, extend,
    unspacedLetters])).union wordSigns

def numeric : CharSet := decimalNumber.union <| .ofText
  "600-605 66B 6DD 890-891 8E2 19DA 110BD 110CD"

/-- The values by their names. -/
def values : List (List String × CharSet) :=
  [(["le", "aletter"], letter),
   (["cr"], .ofText "D"),
   (["dq", "doublequote"], .ofText "22"),
   (["extend"], extend),
   (["ex", "extendnumlet"], connectorPunctuation.union (.ofText "202F")),
   (["fo", "format"], plainFormats.difference (.ofText "200B")),
   (["hl", "hebrewletter"], hebrewLetter),
   (["ka", "katakana"], katakana),
   (["lf"], .ofText "A"),
   (["ml", "midletter"], .ofText "3A B7 387 55F 5F4 2027 FE13 FE55 FF1A"),
   (["mn", "midnum"], .ofText "2C 3B 37E 589 60C-60D 66C 7F8 2044 FE50 FE54 FF0C FF1B"),
   (["mb", "midnumlet"], .ofText "2E 2018-2019 2024 FE52 FF07 FF0E"),
   (["nl", "newline"], .ofText "B-C 85 2028-2029"),
   (["nu", "numeric"], numeric),
   (["ri", "regionalindicator"], Unicode.regionalIndicator),
   (["sq", "singlequote"], .ofText "27"),
   (["wsegspace"], spaceSeparator.difference (.ofText "A0 2007 202F")),
   (["zwj"], .ofText "200D")]

end Word

namespace Sentence

def extend : CharSet := .unions [graphemeExtend, spacingMark, .ofText "200D"]

/-- The small Georgian letters, which begin sentences like capitals. -/
def georgianSmall : CharSet := .ofText "10D0-10FA 10FD-10FF"

/-- The capital Georgian letters, which are used for whole titles only. -/
def georgianCapitals : CharSet := .ofText "1C90-1CBA 1CBD-1CBF"

def lower : CharSet := lowercase.difference (graphemeExtend.union georgianSmall)

def upper : CharSet := (uppercase.union titlecaseLetter).difference georgianCapitals

def otherLetter : CharSet :=
  (alphabetic.union (.ofText "5F3")).difference (.unions [lower, upper, extend])

def numeric : CharSet := decimalNumber.union <| .ofText
  "600-605 66B-66C 6DD 890-891 8E2 19DA 110BD 110CD"

def pauses : CharSet := .ofText
  "2C-2D 3A-3B 37E 55D 60C-60D 7F8 1802 1808 2013-2014 3001 FE10-FE11 FE13-FE14 FE31-FE32
    FE50-FE51 FE54-FE55 FE58 FE63 FF0C-FF0D FF1A-FF1B FF64"

def fullStops : CharSet := .ofText "2E 2024 FE52 FF0E"

def otherClosing : CharSet := .ofText "275B-2760 2E00-2E01 2E06-2E08 2E0B 1F676-1F678"

def wideQuotes : CharSet := .ofText "FF02 FF07"

def close : CharSet :=
  (CharSet.unions [openPunctuation, closePunctuation, initialPunctuation, finalPunctuation,
    quotationMark, otherClosing]).difference wideQuotes

/-- The values by their names. -/
def values : List (List String × CharSet) :=
  [(["at", "aterm"], fullStops),
   (["cr"], .ofText "D"),
   (["cl", "close"], close),
   (["ex", "extend"], extend),
   (["fo", "format"], plainFormats.union (.ofText "70F")),
   (["lf"], .ofText "A"),
   (["lo", "lower"], lower),
   (["nu", "numeric"], numeric),
   (["le", "oletter"], otherLetter),
   (["sc", "scontinue"], pauses),
   (["st", "sterm"], sentenceTerminal.difference fullStops),
   (["se", "sep"], .ofText "85 2028-2029"),
   (["sp"], whiteSpace.difference (.ofText "A D 85 2028-2029")),
   (["up", "upper"], upper)]

end Sentence

end GridPolicy.Pattern.Unicode
