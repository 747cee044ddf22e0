import CodingStandard.Text.Property
import CodingStandard.Text.Script

namespace CodingStandard

/-!
# Boundaries in text

Three divisions of the characters, by the part that a character plays in finding where what a reader
sees as one character ends, where a word ends and where a sentence ends. Each class of a division
has a long name and mostly a short one, in lower case and without separators. The class of all that
is left over has no name.
-/

/-- A class of a division of the characters. -/
structure Boundary where
  names : List String
  set : CharSet
  deriving Repr

namespace Boundary

def having (property : String) : CharSet := (Property.named? property).getD .empty

def joiner : CharSet := .ofRanges [(0x200D, 0x200D)]

def carriageReturn : Boundary := ⟨["cr"], .ofRanges [(0xD, 0xD)]⟩

def lineFeed : Boundary := ⟨["lf"], .ofRanges [(0xA, 0xA)]⟩

/-- The marks that take up room of their own. -/
def spacingMarks : CharSet := Property.ofCategories [.spacingMark]

/-- Invisible characters that affect how others are set. -/
def formats : CharSet := Property.ofCategories [.format]

/-- Characters that are written in front of what they belong to. -/
def prepended : CharSet :=
  .ofRanges [
    (0x600, 0x605), (0x6DD, 0x6DD), (0x70F, 0x70F), (0x890, 0x891), (0x8E2, 0x8E2), (0xD4E, 0xD4E),
    (0x110BD, 0x110BD), (0x110CD, 0x110CD), (0x111C2, 0x111C3), (0x113D1, 0x113D1),
    (0x1193F, 0x1193F), (0x11941, 0x11941), (0x11A3A, 0x11A3A), (0x11A84, 0x11A89),
    (0x11D46, 0x11D46), (0x11F02, 0x11F02)]

/-- Signs in front of a number. -/
def numberSigns : CharSet := (having "pcm").diff (.ofRanges [(0x70F, 0x70F)])

/-- Spacing marks that start something new. -/
def detachedMarks : CharSet :=
  .ofRanges [
    (0x102B, 0x102C), (0x1038, 0x1038), (0x1062, 0x1064), (0x1067, 0x106D), (0x1083, 0x1083),
    (0x1087, 0x108C), (0x108F, 0x108F), (0x109A, 0x109C), (0x1A61, 0x1A61), (0x1A63, 0x1A64),
    (0xAA7B, 0xAA7B), (0xAA7D, 0xAA7D), (0x11720, 0x11721)]

/-- The syllables, each of a consonant and a vowel. -/
def openSyllables : CharSet :=
  .ofRanges ((List.range 399).map fun n => (0xAC00 + 28 * n, 0xAC00 + 28 * n))

/-- The classes for what a reader sees as one character. -/
def graphemeClasses : List Boundary := [
  ⟨["cn", "control"],
    ((Property.ofCategories [.lineSeparator, .paragraphSeparator, .control, .format]).union
      ((Property.ofCategories [.unassigned]).inter (having "di"))).diff
      ((CharSet.ofRanges [(0xA, 0xA), (0xD, 0xD), (0x200C, 0x200D)]).union
        ((having "pcm").union Property.graphemeExtend))⟩,
  carriageReturn,
  ⟨["ex", "extend"], (Property.graphemeExtend.union (having "emod")).diff joiner⟩,
  ⟨["l"], .ofRanges [(0x1100, 0x115F), (0xA960, 0xA97C)]⟩,
  lineFeed,
  ⟨["lv"], openSyllables⟩,
  ⟨["lvt"], (CharSet.ofRanges [(0xAC00, 0xD7A3)]).diff openSyllables⟩,
  ⟨["pp", "prepend"], prepended⟩,
  ⟨["ri", "regionalindicator"], having "ri"⟩,
  ⟨["sm", "spacingmark"],
    (spacingMarks.union (.ofRanges [(0xE33, 0xE33), (0xEB3, 0xEB3)])).diff
      (Property.graphemeExtend.union detachedMarks)⟩,
  ⟨["t"], .ofRanges [(0x11A8, 0x11FF), (0xD7CB, 0xD7FB)]⟩,
  ⟨["v"], .ofRanges [(0x1160, 0x11A7), (0xD7B0, 0xD7C6), (0x16D63, 0x16D63), (0x16D67, 0x16D6A)]⟩,
  ⟨["zwj"], joiner⟩]

/-- The characters that carry on a word or a sentence, whatever they follow. -/
def extending : CharSet := Property.graphemeExtend.union spacingMarks

/-- The characters that carry on a word, whatever they follow. -/
def wordExtending : CharSet := (extending.union (having "emod")).diff joiner

/-- The letters of words in one syllabary. -/
def katakana : CharSet :=
  (Script.set "Kana").union
    (.ofRanges [(0x3031, 0x3035), (0x309B, 0x309C), (0x30A0, 0x30A0), (0x30FC, 0x30FC),
      (0xFF70, 0xFF70)])

/-- Letters that can join with quotation marks. -/
def hebrewLetters : CharSet := (Script.set "Hebr").inter (Property.ofCategories [.otherLetter])

/-- Letters of writing without spaces between words. -/
def unspacedLetters : CharSet :=
  .ofRanges [
    (0xE01, 0xE30), (0xE32, 0xE33), (0xE40, 0xE46), (0xE81, 0xE82), (0xE84, 0xE84), (0xE86, 0xE8A),
    (0xE8C, 0xEA3), (0xEA5, 0xEA5), (0xEA7, 0xEB0), (0xEB2, 0xEB3), (0xEBD, 0xEBD), (0xEC0, 0xEC4),
    (0xEC6, 0xEC6), (0xEDC, 0xEDF), (0x1000, 0x102A), (0x103F, 0x103F), (0x1050, 0x1055),
    (0x105A, 0x105D), (0x1061, 0x1061), (0x1065, 0x1066), (0x106E, 0x1070), (0x1075, 0x1081),
    (0x108E, 0x108E), (0x1780, 0x17B3), (0x17D7, 0x17D7), (0x17DC, 0x17DC), (0x1950, 0x196D),
    (0x1970, 0x1974), (0x1980, 0x19AB), (0x19B0, 0x19C9), (0x1A20, 0x1A54), (0x1AA7, 0x1AA7),
    (0xA9E0, 0xA9E4), (0xA9E6, 0xA9EF), (0xA9FA, 0xA9FE), (0xAA60, 0xAA76), (0xAA7A, 0xAA7A),
    (0xAA7E, 0xAAAF), (0xAAB1, 0xAAB1), (0xAAB5, 0xAAB6), (0xAAB9, 0xAABD), (0xAAC0, 0xAAC0),
    (0xAAC2, 0xAAC2), (0xAADB, 0xAADD), (0x11700, 0x1171A), (0x11740, 0x11746)]

/-- Signs that stand among the letters of a word. -/
def letterSigns : CharSet :=
  .ofRanges [
    (0xB8, 0xB8), (0x2C2, 0x2C5), (0x2D2, 0x2D7), (0x2DE, 0x2DF), (0x2E5, 0x2EB), (0x2ED, 0x2ED),
    (0x2EF, 0x2FF), (0x55A, 0x55C), (0x55E, 0x55E), (0x58A, 0x58A), (0x5F3, 0x5F3), (0x70F, 0x70F),
    (0xA708, 0xA716), (0xA720, 0xA721), (0xA789, 0xA78A), (0xAB5B, 0xAB5B)]

def wordClasses : List Boundary := [
  ⟨["le", "aletter"],
    (Property.alphabetic.diff
      ((having "ideo").union ((Script.set "Hira").union (katakana.union
        (wordExtending.union (hebrewLetters.union unspacedLetters)))))).union letterSigns⟩,
  carriageReturn,
  ⟨["dq", "doublequote"], .ofRanges [(0x22, 0x22)]⟩,
  ⟨["extend"], wordExtending⟩,
  ⟨["ex", "extendnumlet"],
    (Property.ofCategories [.connectorPunctuation]).union (.ofRanges [(0x202F, 0x202F)])⟩,
  ⟨["fo", "format"],
    formats.diff ((CharSet.ofRanges [(0x200B, 0x200D)]).union
      (prepended.union Property.graphemeExtend))⟩,
  ⟨["hl", "hebrewletter"], hebrewLetters⟩,
  ⟨["ka", "katakana"], katakana⟩,
  lineFeed,
  ⟨["ml", "midletter"],
    .ofRanges [(0x3A, 0x3A), (0xB7, 0xB7), (0x387, 0x387), (0x55F, 0x55F), (0x5F4, 0x5F4),
      (0x2027, 0x2027), (0xFE13, 0xFE13), (0xFE55, 0xFE55), (0xFF1A, 0xFF1A)]⟩,
  ⟨["mn", "midnum"],
    .ofRanges [(0x2C, 0x2C), (0x3B, 0x3B), (0x37E, 0x37E), (0x589, 0x589), (0x60C, 0x60D),
      (0x66C, 0x66C), (0x7F8, 0x7F8), (0x2044, 0x2044), (0xFE10, 0xFE10), (0xFE14, 0xFE14),
      (0xFE50, 0xFE50), (0xFE54, 0xFE54), (0xFF0C, 0xFF0C), (0xFF1B, 0xFF1B)]⟩,
  ⟨["mb", "midnumlet"],
    .ofRanges [(0x2E, 0x2E), (0x2018, 0x2019), (0x2024, 0x2024), (0xFE52, 0xFE52),
      (0xFF07, 0xFF07), (0xFF0E, 0xFF0E)]⟩,
  ⟨["nl", "newline"], .ofRanges [(0xB, 0xC), (0x85, 0x85), (0x2028, 0x2029)]⟩,
  ⟨["nu", "numeric"], Property.digit.union (numberSigns.union (.ofRanges [(0x66B, 0x66B)]))⟩,
  ⟨["ri", "regionalindicator"], having "ri"⟩,
  ⟨["sq", "singlequote"], .ofRanges [(0x27, 0x27)]⟩,
  ⟨["wsegspace"],
    .ofRanges [(0x20, 0x20), (0x1680, 0x1680), (0x2000, 0x2006), (0x2008, 0x200A),
      (0x205F, 0x205F), (0x3000, 0x3000)]⟩,
  ⟨["zwj"], joiner⟩]

/-- Letters with two forms that do not mark the start of a sentence. -/
def caselessPairs : CharSet :=
  .ofRanges [(0x10D0, 0x10FA), (0x10FD, 0x10FF), (0x1C90, 0x1CBA), (0x1CBD, 0x1CBF)]

def sentenceLower : CharSet := Property.lowercase.diff (extending.union caselessPairs)

def sentenceUpper : CharSet :=
  ((Property.ofCategories [.titleCaseLetter]).union Property.uppercase).diff caselessPairs

def sentenceClasses : List Boundary := [
  ⟨["at", "aterm"], .ofRanges [(0x2E, 0x2E), (0x2024, 0x2024), (0xFE52, 0xFE52), (0xFF0E, 0xFF0E)]⟩,
  carriageReturn,
  ⟨["cl", "close"],
    ((Property.ofCategories [.openPunctuation, .closePunctuation]).union
      ((having "qmark").union (.ofRanges [(0x275B, 0x2760), (0x2E00, 0x2E0D), (0x2E1C, 0x2E1D),
        (0x2E20, 0x2E21), (0x1F676, 0x1F678)]))).diff
      (.ofRanges [(0xFF02, 0xFF02), (0xFF07, 0xFF07)])⟩,
  ⟨["ex", "extend"], extending.union joiner⟩,
  ⟨["fo", "format"],
    formats.diff ((CharSet.ofRanges [(0x200C, 0x200D)]).union
      (prepended.union Property.graphemeExtend))⟩,
  lineFeed,
  ⟨["lo", "lower"], sentenceLower⟩,
  ⟨["nu", "numeric"], Property.digit.union (numberSigns.union (.ofRanges [(0x66B, 0x66C)]))⟩,
  ⟨["le", "oletter"],
    (Property.alphabetic.union (.ofRanges [(0x5F3, 0x5F3), (0x70F, 0x70F)])).diff
      (sentenceLower.union (sentenceUpper.union extending))⟩,
  ⟨["sc", "scontinue"],
    .ofRanges [(0x2C, 0x2D), (0x3A, 0x3B), (0x37E, 0x37E), (0x55D, 0x55D), (0x60C, 0x60D),
      (0x7F8, 0x7F8), (0x1802, 0x1802), (0x1808, 0x1808), (0x2013, 0x2014), (0x3001, 0x3001),
      (0xFE10, 0xFE11), (0xFE13, 0xFE14), (0xFE31, 0xFE32), (0xFE50, 0xFE51), (0xFE54, 0xFE55),
      (0xFE58, 0xFE58), (0xFE63, 0xFE63), (0xFF0C, 0xFF0D), (0xFF1A, 0xFF1B), (0xFF64, 0xFF64)]⟩,
  ⟨["se", "sep"], .ofRanges [(0x85, 0x85), (0x2028, 0x2029)]⟩,
  ⟨["sp"],
    Property.whiteSpace.diff
      (.ofRanges [(0xA, 0xA), (0xD, 0xD), (0x85, 0x85), (0x2028, 0x2029)])⟩,
  ⟨["st", "sterm"],
    (having "sterm").diff (.ofRanges [(0x2E, 0x2E), (0x2024, 0x2024), (0xFE52, 0xFE52),
      (0xFF0E, 0xFF0E)])⟩,
  ⟨["up", "upper"], sentenceUpper⟩]

def named? (classes : List Boundary) (name : String) : Option CharSet :=
  (classes.find? (·.names.contains name)).map (·.set)

end Boundary

end CodingStandard
