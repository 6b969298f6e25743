import Precompiled.Text.Blank
import Precompiled.Text.Property.Format
import Precompiled.Text.Property.Identifier
import Precompiled.Text.Property.Ideograph
import Precompiled.Text.Property.Mark
import Precompiled.Text.Property.Punctuation
import Precompiled.Text.Property.Symbol
import Precompiled.Text.Script

/-!
# Boundaries

The Unicode properties that tell where characters, words and sentences end as readers see them:
Grapheme_Cluster_Break, Word_Break and Sentence_Break. Their values stand with all their names, in
small letters and without separators.
-/

namespace Precompiled.Text.Property

def carriageReturn : CharSet := [(0x0D, 0x0D)]

def lineFeed : CharSet := [(0x0A, 0x0A)]

def zeroWidthJoiner : CharSet := [(0x200D, 0x200D)]

-- ---------------------------------------------------------------------------
-- Characters
-- ---------------------------------------------------------------------------

/-- What extends a character for readers. -/
def clusterExtend : CharSet := graphemeExtend.union emojiModifier

def clusterPrepend : CharSet :=
  prependedConcatenationMark.union
    [(0xD4E, 0xD4E), (0x111C2, 0x111C3), (0x113D1, 0x113D1), (0x1193F, 0x1193F), (0x11941, 0x11941),
     (0x11A3A, 0x11A3A), (0x11A84, 0x11A89), (0x11D46, 0x11D46), (0x11F02, 0x11F02)]

def tags : CharSet := [(0xE0020, 0xE007F)]

def clusterControl : CharSet :=
  CharSet.diff
    (CharSet.ofRuns (ofCategories [.control, .format, .lineSeparator, .paragraphSeparator] ++
      defaultIgnorable.inter (ofCategory .unassigned)))
    (CharSet.ofRuns (carriageReturn ++ lineFeed ++ joinControl ++ tags ++
      prependedConcatenationMark))

def clusterSpacingMark : CharSet :=
  CharSet.diff (CharSet.union (ofCategory .spacingMark) [(0xE33, 0xE33), (0xEB3, 0xEB3)])
    (clusterExtend.union
      [(0x102B, 0x102C), (0x1038, 0x1038), (0x1062, 0x1064), (0x1067, 0x106D), (0x1083, 0x1083),
       (0x1087, 0x108C), (0x108F, 0x108F), (0x109A, 0x109C), (0x1A61, 0x1A61), (0x1A63, 0x1A64),
       (0xAA7B, 0xAA7B), (0xAA7D, 0xAA7D), (0x11720, 0x11721)])

/-- The syllables of Hangul with two parts, which come before those with the same parts and
another. -/
def hangulPairs : CharSet :=
  (List.range 399).map fun n => (0xAC00 + 28 * n, 0xAC00 + 28 * n)

def hangulSyllables : CharSet := [(0xAC00, 0xD7A3)]

def clusterBreaks : List (List String × CharSet) :=
  [(["cr"], carriageReturn), (["lf"], lineFeed), (["control", "cn"], clusterControl),
   (["extend", "ex"], clusterExtend), (["zwj"], zeroWidthJoiner),
   (["regionalindicator", "ri"], regionalIndicator), (["prepend", "pp"], clusterPrepend),
   (["spacingmark", "sm"], clusterSpacingMark), (["l"], [(0x1100, 0x115F), (0xA960, 0xA97C)]),
   (["v"], [(0x1160, 0x11A7), (0xD7B0, 0xD7C6), (0x16D63, 0x16D63), (0x16D67, 0x16D6A)]),
   (["t"], [(0x11A8, 0x11FF), (0xD7CB, 0xD7FB)]), (["lv"], hangulPairs),
   (["lvt"], hangulSyllables.diff hangulPairs)]

-- ---------------------------------------------------------------------------
-- Words
-- ---------------------------------------------------------------------------

def wordExtend : CharSet :=
  CharSet.diff (CharSet.ofRuns (graphemeExtend ++ ofCategory .spacingMark ++ emojiModifier))
    zeroWidthJoiner

def wordFormat : CharSet :=
  CharSet.diff (ofCategory .format)
    (CharSet.ofRuns (prependedConcatenationMark ++ [(0x200B, 0x200D)] ++ tags))

/-- Digits, and what stands between them as a part of numbers. -/
def numeric : CharSet :=
  CharSet.ofRuns (ofCategory .decimalNumber ++
    [(0x600, 0x605), (0x66B, 0x66B), (0x6DD, 0x6DD), (0x890, 0x891), (0x8E2, 0x8E2),
     (0x19DA, 0x19DA), (0x110BD, 0x110BD), (0x110CD, 0x110CD)])

def ofScripts (names : List String) : CharSet :=
  CharSet.ofRuns ((scripts.filter (·.1.any names.contains)).flatMap Prod.snd)

def hebrewLetter : CharSet := CharSet.inter (ofScripts ["hebrew"]) (ofCategory .otherLetter)

def katakana : CharSet :=
  CharSet.union (ofScripts ["katakana"])
    [(0x3031, 0x3035), (0x309B, 0x309C), (0x30A0, 0x30A0), (0x30FC, 0x30FC), (0xFF70, 0xFF70)]

/-- The scripts whose words only a dictionary tells apart. -/
def unspacedScripts : List String :=
  ["thai", "lao", "khmer", "myanmar", "newtailue", "taile", "taitham", "taiviet", "ahom"]

def wordLetter : CharSet :=
  CharSet.union
    (alphabetic.diff (CharSet.ofRuns (ideographic ++ katakana ++ hebrewLetter ++ wordExtend ++
      ofScripts ("hiragana" :: unspacedScripts))))
    [(0x2C2, 0x2C5), (0x2D2, 0x2D7), (0x2DE, 0x2DF), (0x2E5, 0x2EB), (0x2ED, 0x2ED), (0x2EF, 0x2FF),
     (0x55A, 0x55C), (0x55E, 0x55E), (0x58A, 0x58A), (0x5F3, 0x5F3), (0x70F, 0x70F),
     (0xA708, 0xA716), (0xA720, 0xA721), (0xA789, 0xA78A), (0xAB5B, 0xAB5B)]

def wordBreaks : List (List String × CharSet) :=
  [(["cr"], carriageReturn), (["lf"], lineFeed),
   (["newline", "nl"], [(0x0B, 0x0C), (0x85, 0x85), (0x2028, 0x2029)]),
   (["extend"], wordExtend), (["zwj"], zeroWidthJoiner), (["format", "fo"], wordFormat),
   (["regionalindicator", "ri"], regionalIndicator), (["aletter", "le"], wordLetter),
   (["hebrewletter", "hl"], hebrewLetter), (["katakana", "ka"], katakana),
   (["numeric", "nu"], numeric), (["singlequote", "sq"], [(0x27, 0x27)]),
   (["doublequote", "dq"], [(0x22, 0x22)]),
   (["midletter", "ml"],
    [(0x3A, 0x3A), (0xB7, 0xB7), (0x387, 0x387), (0x55F, 0x55F), (0x5F4, 0x5F4), (0x2027, 0x2027),
     (0xFE13, 0xFE13), (0xFE55, 0xFE55), (0xFF1A, 0xFF1A)]),
   (["midnum", "mn"],
    [(0x2C, 0x2C), (0x3B, 0x3B), (0x37E, 0x37E), (0x589, 0x589), (0x60C, 0x60D), (0x66C, 0x66C),
     (0x7F8, 0x7F8), (0x2044, 0x2044), (0xFE50, 0xFE50), (0xFE54, 0xFE54), (0xFF0C, 0xFF0C),
     (0xFF1B, 0xFF1B)]),
   (["midnumlet", "mb"],
    [(0x2E, 0x2E), (0x2018, 0x2019), (0x2024, 0x2024), (0xFE52, 0xFE52), (0xFF07, 0xFF07),
     (0xFF0E, 0xFF0E)]),
   (["extendnumlet", "ex"],
    [(0x5F, 0x5F), (0x202F, 0x202F), (0x203F, 0x2040), (0x2054, 0x2054), (0xFE33, 0xFE34),
     (0xFE4D, 0xFE4F), (0xFF3F, 0xFF3F)]),
   (["wsegspace"],
    [(0x20, 0x20), (0x1680, 0x1680), (0x2000, 0x2006), (0x2008, 0x200A), (0x205F, 0x205F),
     (0x3000, 0x3000)])]

-- ---------------------------------------------------------------------------
-- Sentences
-- ---------------------------------------------------------------------------

def sentenceExtend : CharSet := (wordExtend.union zeroWidthJoiner).diff emojiModifier

def sentenceFormat : CharSet := wordFormat.union [(0x70F, 0x70F), (0x200B, 0x200B)]

/-- The capitals of Georgian, which do not start sentences. -/
def georgianCapitals : CharSet := [(0x1C90, 0x1CBA), (0x1CBD, 0x1CBF)]

def sentenceLower : CharSet := lowercase.diff (graphemeExtend.union georgianLetters)

def sentenceUpper : CharSet := (uppercase.union titlecase).diff georgianCapitals

def sentenceLetter : CharSet :=
  CharSet.union (alphabetic.diff (CharSet.ofRuns (sentenceLower ++ sentenceUpper ++
    sentenceExtend))) [(0x5F3, 0x5F3)]

/-- Stops that may stand within a sentence. -/
def fullStop : CharSet := [(0x2E, 0x2E), (0x2024, 0x2024), (0xFE52, 0xFE52), (0xFF0E, 0xFF0E)]

def sentenceSeparator : CharSet := [(0x85, 0x85), (0x2028, 0x2029)]

def sentenceSpace : CharSet :=
  blanks.diff (CharSet.ofRuns (carriageReturn ++ lineFeed ++ sentenceSeparator))

def sentenceClose : CharSet :=
  CharSet.ofRuns (ofCategories [.openPunctuation, .closePunctuation, .initialPunctuation,
    .finalPunctuation] ++
    [(0x22, 0x22), (0x27, 0x27), (0x275B, 0x2760), (0x2E00, 0x2E01), (0x2E06, 0x2E08),
     (0x2E0B, 0x2E0B), (0x1F676, 0x1F678)])

def sentenceBreaks : List (List String × CharSet) :=
  [(["cr"], carriageReturn), (["lf"], lineFeed), (["sep", "se"], sentenceSeparator),
   (["extend", "ex"], sentenceExtend), (["format", "fo"], sentenceFormat),
   (["sp"], sentenceSpace), (["lower", "lo"], sentenceLower), (["upper", "up"], sentenceUpper),
   (["oletter", "le"], sentenceLetter),
   (["numeric", "nu"], CharSet.union numeric [(0x66C, 0x66C)]), (["aterm", "at"], fullStop),
   (["sterm", "st"], sentenceTerminal.diff fullStop), (["close", "cl"], sentenceClose),
   (["scontinue", "sc"],
    [(0x2C, 0x2D), (0x3A, 0x3B), (0x37E, 0x37E), (0x55D, 0x55D), (0x60C, 0x60D), (0x7F8, 0x7F8),
     (0x1802, 0x1802), (0x1808, 0x1808), (0x2013, 0x2014), (0x3001, 0x3001), (0xFE10, 0xFE11),
     (0xFE13, 0xFE14), (0xFE31, 0xFE32), (0xFE50, 0xFE51), (0xFE54, 0xFE55), (0xFE58, 0xFE58),
     (0xFE63, 0xFE63), (0xFF0C, 0xFF0D), (0xFF1A, 0xFF1B), (0xFF64, 0xFF64)])]

end Precompiled.Text.Property
