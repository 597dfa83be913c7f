import QueryGate.Regex.Emoji
import QueryGate.Regex.Ideographs
import QueryGate.Regex.Letters
import QueryGate.Regex.Marks
import QueryGate.Regex.Scripts
import QueryGate.Regex.Symbols

/-! The parts that characters play where a text is divided into clusters, words and sentences. -/
namespace QueryGate
namespace Regex

def leadingConsonants : CharSet := ⟨[(0x1100, 0x115F), (0xA960, 0xA97C)]⟩

def syllableVowels : CharSet :=
  ⟨[(0x1160, 0x11A7), (0xD7B0, 0xD7C6), (0x16D63, 0x16D63), (0x16D67, 0x16D6A)]⟩

def trailingConsonants : CharSet := ⟨[(0x11A8, 0x11FF), (0xD7CB, 0xD7FB)]⟩

/-- Syllables of a leading consonant and a vowel; each begins a row of 28. -/
def openSyllables : CharSet := CharSet.ofPoints ((List.range 399).map fun i => 0xAC00 + 28 * i)

def closedSyllables : CharSet := CharSet.range 0xAC00 0xD7A3 \ openSyllables

/-- Line ends and other controls, formats that join nothing, and unassigned code points without a shape. -/
def breakingControls : CharSet :=
  (controls ∪ formats ∪ lineSeparators ∪ paragraphSeparators ∪ (unassigned ∩ ignorable)) \
    (⟨[(0xA, 0xA), (0xD, 0xD)]⟩ ∪ joinControls ∪ prependedMarks ∪ graphemeExtend)

def prependedLetters : CharSet :=
  ⟨[(0xD4E, 0xD4E), (0x111C2, 0x111C3), (0x113D1, 0x113D1), (0x1193F, 0x1193F), (0x11941, 0x11941),
    (0x11A3A, 0x11A3A), (0x11A84, 0x11A89), (0x11D46, 0x11D46), (0x11F02, 0x11F02)]⟩

/-- Spacing marks that do not belong to the character before. -/
def independentSpacingMarks : CharSet :=
  ⟨[(0x102B, 0x102C), (0x1038, 0x1038), (0x1062, 0x1064), (0x1067, 0x106D), (0x1083, 0x1083),
    (0x1087, 0x108C), (0x108F, 0x108F), (0x109A, 0x109C), (0x1A61, 0x1A61), (0x1A63, 0x1A64),
    (0xAA7B, 0xAA7B), (0xAA7D, 0xAA7D), (0x11720, 0x11721)]⟩

/-- Letters that belong to the character before. -/
def dependentVowels : CharSet := ⟨[(0xE33, 0xE33), (0xEB3, 0xEB3)]⟩

/-- The values of the property Grapheme_Cluster_Break. -/
def clusterTable : List (List String × CharSet) := [
  (["cn", "control"], breakingControls),
  (["cr"], CharSet.range 0xD 0xD),
  (["ex", "extend"], graphemeExtend ∪ emojiModifiers),
  (["l"], leadingConsonants),
  (["lf"], CharSet.range 0xA 0xA),
  (["lv"], openSyllables),
  (["lvt"], closedSyllables),
  (["pp", "prepend"], prependedMarks ∪ prependedLetters),
  (["ri", "regionalindicator"], regionalIndicators),
  (["sm", "spacingmark"], ((spacingMarks \ graphemeExtend) \ independentSpacingMarks) ∪ dependentVowels),
  (["t"], trailingConsonants),
  (["v"], syllableVowels),
  (["zwj"], CharSet.range 0x200D 0x200D)]

/-- The characters of a script. -/
def scriptMembers (name : String) : CharSet := ((CharSet.find? name scriptTable).getD CharSet.none)

/-- Signs that are written with several scripts, and count as katakana. -/
def katakanaMarks : CharSet :=
  ⟨[(0x3031, 0x3035), (0x309B, 0x309C), (0x30A0, 0x30A0), (0x30FC, 0x30FC), (0xFF70, 0xFF70)]⟩

def wordKatakana : CharSet := scriptMembers "katakana" ∪ katakanaMarks

def wordHebrew : CharSet := scriptMembers "hebrew" ∩ otherLetters

/-- Marks that belong to the word before. -/
def wordExtend : CharSet := graphemeExtend ∪ spacingMarks ∪ emojiModifiers

/-- Signs that count as letters of a word. -/
def wordSigns : CharSet :=
  ⟨[(0xB8, 0xB8), (0x2C2, 0x2C5), (0x2D2, 0x2D7), (0x2DE, 0x2DF), (0x2E5, 0x2EB), (0x2ED, 0x2ED),
    (0x2EF, 0x2FF), (0x55A, 0x55C), (0x55E, 0x55E), (0x58A, 0x58A), (0x5F3, 0x5F3), (0x70F, 0x70F),
    (0xA708, 0xA716), (0xA720, 0xA721), (0xA789, 0xA78A), (0xAB5B, 0xAB5B)]⟩

/-- Letters of scripts without spaces between words. -/
def unspacedLetters : CharSet :=
  ⟨[(0xE01, 0xE30), (0xE32, 0xE33), (0xE40, 0xE46), (0xE81, 0xE82), (0xE84, 0xE84), (0xE86, 0xE8A),
    (0xE8C, 0xEA3), (0xEA5, 0xEA5), (0xEA7, 0xEB0), (0xEB2, 0xEB3), (0xEBD, 0xEBD), (0xEC0, 0xEC4),
    (0xEC6, 0xEC6), (0xEDC, 0xEDF), (0x1000, 0x102A), (0x103F, 0x103F), (0x1050, 0x1055),
    (0x105A, 0x105D), (0x1061, 0x1061), (0x1065, 0x1066), (0x106E, 0x1070), (0x1075, 0x1081),
    (0x108E, 0x108E), (0x1780, 0x17B3), (0x17D7, 0x17D7), (0x17DC, 0x17DC), (0x1950, 0x196D),
    (0x1970, 0x1974), (0x1980, 0x19AB), (0x19B0, 0x19C9), (0x1A20, 0x1A54), (0x1AA7, 0x1AA7),
    (0xA9E0, 0xA9E4), (0xA9E6, 0xA9EF), (0xA9FA, 0xA9FE), (0xAA60, 0xAA76), (0xAA7A, 0xAA7A),
    (0xAA7E, 0xAAAF), (0xAAB1, 0xAAB1), (0xAAB5, 0xAAB6), (0xAAB9, 0xAABD), (0xAAC0, 0xAAC0),
    (0xAAC2, 0xAAC2), (0xAADB, 0xAADD), (0x11700, 0x1171A), (0x11740, 0x11746)]⟩

def wordLetters : CharSet :=
  (alphabetic \ (ideographs ∪ wordKatakana ∪ scriptMembers "hiragana" ∪ wordHebrew ∪ wordExtend ∪
    unspacedLetters)) ∪ wordSigns

/-- Signs that count as digits. -/
def otherNumeric : CharSet :=
  ⟨[(0x600, 0x605), (0x66B, 0x66B), (0x6DD, 0x6DD), (0x890, 0x891), (0x8E2, 0x8E2),
    (0x19DA, 0x19DA), (0x110BD, 0x110BD), (0x110CD, 0x110CD)]⟩

def wordNumbers : CharSet := decimalNumbers ∪ otherNumeric

def midLetters : CharSet :=
  ⟨[(0x3A, 0x3A), (0xB7, 0xB7), (0x387, 0x387), (0x55F, 0x55F), (0x5F4, 0x5F4), (0x2027, 0x2027),
    (0xFE13, 0xFE13), (0xFE55, 0xFE55), (0xFF1A, 0xFF1A)]⟩

def midNumbers : CharSet :=
  ⟨[(0x2C, 0x2C), (0x3B, 0x3B), (0x37E, 0x37E), (0x589, 0x589), (0x60C, 0x60D), (0x66C, 0x66C),
    (0x7F8, 0x7F8), (0x2044, 0x2044), (0xFE50, 0xFE50), (0xFE54, 0xFE54), (0xFF0C, 0xFF0C),
    (0xFF1B, 0xFF1B)]⟩

def midBoth : CharSet :=
  ⟨[(0x2E, 0x2E), (0x2018, 0x2019), (0x2024, 0x2024), (0xFE52, 0xFE52), (0xFF07, 0xFF07),
    (0xFF0E, 0xFF0E)]⟩

/-- The values of the property Word_Break. -/
def wordTable : List (List String × CharSet) := [
  (["le", "aletter"], wordLetters),
  (["cr"], CharSet.range 0xD 0xD),
  (["dq", "doublequote"], CharSet.range 0x22 0x22),
  (["extend"], wordExtend),
  (["ex", "extendnumlet"], connectorPunctuation ∪ CharSet.range 0x202F 0x202F),
  (["fo", "format"], formats \ (CharSet.range 0x200B 0x200D ∪ prependedMarks ∪ graphemeExtend)),
  (["hl", "hebrewletter"], wordHebrew),
  (["ka", "katakana"], wordKatakana),
  (["lf"], CharSet.range 0xA 0xA),
  (["ml", "midletter"], midLetters),
  (["mn", "midnum"], midNumbers),
  (["mb", "midnumlet"], midBoth),
  (["nl", "newline"], ⟨[(0xB, 0xC), (0x85, 0x85), (0x2028, 0x2029)]⟩),
  (["nu", "numeric"], wordNumbers),
  (["ri", "regionalindicator"], regionalIndicators),
  (["sq", "singlequote"], CharSet.range 0x27 0x27),
  (["wsegspace"], spaceSeparators \ ⟨[(0xA0, 0xA0), (0x2007, 0x2007), (0x202F, 0x202F)]⟩),
  (["zwj"], CharSet.range 0x200D 0x200D)]

/-- Full stops, which may also end an abbreviation. -/
def fullStops : CharSet := ⟨[(0x2E, 0x2E), (0x2024, 0x2024), (0xFE52, 0xFE52), (0xFF0E, 0xFF0E)]⟩

/-- Punctuation inside a sentence. -/
def sentenceContinue : CharSet :=
  ⟨[(0x2C, 0x2D), (0x3A, 0x3B), (0x37E, 0x37E), (0x55D, 0x55D), (0x60C, 0x60D), (0x7F8, 0x7F8),
    (0x1802, 0x1802), (0x1808, 0x1808), (0x2013, 0x2014), (0x3001, 0x3001), (0xFE10, 0xFE11),
    (0xFE13, 0xFE14), (0xFE31, 0xFE32), (0xFE50, 0xFE51), (0xFE54, 0xFE55), (0xFE58, 0xFE58),
    (0xFE63, 0xFE63), (0xFF0C, 0xFF0D), (0xFF1A, 0xFF1B), (0xFF64, 0xFF64)]⟩

/-- Quotation marks and ornaments that may close a sentence, besides brackets. -/
def otherClosing : CharSet :=
  ⟨[(0x22, 0x22), (0x27, 0x27), (0x275B, 0x2760), (0x2E00, 0x2E01), (0x2E06, 0x2E08),
    (0x2E0B, 0x2E0B), (0x1F676, 0x1F678)]⟩

def modernGeorgian : CharSet := ⟨[(0x10D0, 0x10FA), (0x10FD, 0x10FF)]⟩

def georgianCapitals : CharSet := ⟨[(0x1C90, 0x1CBA), (0x1CBD, 0x1CBF)]⟩

def sentenceLower : CharSet := lowercase \ (graphemeExtend ∪ modernGeorgian)

def sentenceUpper : CharSet := (uppercase ∪ titlecaseLetters) \ georgianCapitals

def sentenceExtend : CharSet := graphemeExtend ∪ spacingMarks ∪ CharSet.range 0x200D 0x200D

def paragraphEnds : CharSet := ⟨[(0x85, 0x85), (0x2028, 0x2029)]⟩

/-- The values of the property Sentence_Break. -/
def sentenceTable : List (List String × CharSet) := [
  (["at", "aterm"], fullStops),
  (["cl", "close"],
   openPunctuation ∪ closePunctuation ∪ initialPunctuation ∪ finalPunctuation ∪ otherClosing),
  (["cr"], CharSet.range 0xD 0xD),
  (["ex", "extend"], sentenceExtend),
  (["fo", "format"],
   (formats \ (prependedMarks ∪ joinControls ∪ graphemeExtend)) ∪ CharSet.range 0x70F 0x70F),
  (["lf"], CharSet.range 0xA 0xA),
  (["lo", "lower"], sentenceLower),
  (["nu", "numeric"], wordNumbers ∪ CharSet.range 0x66C 0x66C),
  (["le", "oletter"],
   (alphabetic ∪ CharSet.range 0x5F3 0x5F3) \ (sentenceLower ∪ sentenceUpper ∪ sentenceExtend)),
  (["sc", "scontinue"], sentenceContinue),
  (["st", "sterm"], sentenceTerminals \ fullStops),
  (["se", "sep"], paragraphEnds),
  (["sp"], blankCharacters \ (paragraphEnds ∪ ⟨[(0xA, 0xA), (0xD, 0xD)]⟩)),
  (["up", "upper"], sentenceUpper)]

end Regex
end QueryGate
