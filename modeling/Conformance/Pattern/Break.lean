import Conformance.Pattern.Trait
/-!
The classes of characters that decide where text may be cut into clusters, words and sentences,
under the names that patterns give them. A class is composed of categories, scripts and traits.
-/

namespace Conformance.Pattern

namespace CharSet

/-! ### Clusters -/

/-- The characters that continue a cluster. -/
def clusterExtend : CharSet := .union graphemeExtend (.bounds emojiModifierBounds)

/-- The characters that pull what follows into their cluster: marks around digits, and consonants
written in front of others. -/
def clusterPrepend : CharSet :=
  .union (.bounds prependedConcatenationMarkBounds)
    (unions [
      single 0xD4E, .range 0x111C2 0x111C3, single 0x113D1, single 0x1193F, single 0x11941,
      single 0x11A3A, .range 0x11A84 0x11A89, single 0x11D46, single 0x11F02])

/-- The characters that stand in a cluster of their own: controls, separators, and points without
a character that are ignored. -/
def clusterControl : CharSet :=
  .diff
    (.union (ofCategories ["zl", "zp", "cc", "cf"])
      (.inter (ofCategories ["cn"]) (.bounds defaultIgnorableBounds)))
    (unions [ofPoints [10, 13], joinControl, clusterExtend, clusterPrepend])

/-- The spacing marks that stay outside the cluster in front of them. -/
def detachedMark : CharSet :=
  unions [
    .range 0x102B 0x102C, single 0x1038, .range 0x1062 0x1064, .range 0x1067 0x106D,
    single 0x1083, .range 0x1087 0x108C, single 0x108F, .range 0x109A 0x109C, single 0x1A61,
    .range 0x1A63 0x1A64, single 0xAA7B, single 0xAA7D, .range 0x11720 0x11721]

def clusterSpacingMark : CharSet :=
  unions [.diff (ofCategories ["mc"]) (.union clusterExtend detachedMark), ofPoints [0xE33, 0xEB3]]

/-- The syllables of two letters: every twenty-eighth of all syllables. -/
def openSyllable : CharSet :=
  .bounds ((List.range 399).flatMap fun index => [0xAC00 + 28 * index, 0xAC01 + 28 * index])

def clusterBreaks : List (List String × CharSet) :=
  [
    (["cr"], single 13), (["lf"], single 10), (["cn", "control"], clusterControl),
    (["ex", "extend"], clusterExtend), (["pp", "prepend"], clusterPrepend),
    (["ri", "regionalindicator"], .bounds regionalIndicatorBounds),
    (["sm", "spacingmark"], clusterSpacingMark), (["zwj"], single 0x200D),
    (["l"], .union (.range 0x1100 0x115F) (.range 0xA960 0xA97C)),
    (["v"], unions [.range 0x1160 0x11A7, .range 0xD7B0 0xD7C6, single 0x16D63,
      .range 0x16D67 0x16D6A]),
    (["t"], .union (.range 0x11A8 0x11FF) (.range 0xD7CB 0xD7FB)),
    (["lv"], openSyllable), (["lvt"], .diff (.range 0xAC00 0xD7A3) openSyllable)]

/-! ### Words -/

/-- The characters that continue a word or a sentence without a weight of their own. -/
def extending : CharSet := unions [ofCategories ["mc"], graphemeExtend, .bounds emojiModifierBounds]

/-- The characters of numbers: decimal digits, the separator of decimals, and marks that enclose
digits. -/
def numeric : CharSet :=
  unions [
    digit, ofPoints [0x66B, 0x19DA], .diff (.bounds prependedConcatenationMarkBounds) (single 0x70F)]

def katakanaInWords : CharSet :=
  .diff
    (unions [
      ofShortScript "kana", .range 0x3031 0x3035, .range 0x309B 0x309C,
      ofPoints [0x30A0, 0x30FC, 0xFF70]])
    extending

def hebrewLetter : CharSet := .inter (ofShortScript "hebr") (ofCategories ["lo"])

/-- The characters of scripts without blanks between words. -/
def unspaced : CharSet :=
  unions [.bounds ideographicBounds,
    unions (["hira", "thai", "laoo", "mymr", "khmr", "tale", "talu", "lana", "tavt", "ahom"].map
      ofShortScript)]

def wordLetter : CharSet :=
  .diff
    (unions [
      alphabetic, single 0xB8, .range 0x2C2 0x2C5, .range 0x2D2 0x2D7, .range 0x2DE 0x2DF,
      .range 0x2E5 0x2EB, single 0x2ED, .range 0x2EF 0x2FF, .range 0x55A 0x55C, single 0x55E,
      single 0x58A, single 0x5F3, single 0x70F, .range 0xA708 0xA716, .range 0xA720 0xA721,
      .range 0xA789 0xA78A, single 0xAB5B])
    (unions [unspaced, katakanaInWords, hebrewLetter, extending])

def wordFormat : CharSet :=
  .diff (ofCategories ["cf"])
    (unions [
      .range 0x200B 0x200D, .bounds prependedConcatenationMarkBounds, graphemeExtend])

def wordBreaks : List (List String × CharSet) :=
  [
    (["cr"], single 13), (["lf"], single 10),
    (["nl", "newline"], unions [.range 11 12, single 0x85, .range 0x2028 0x2029]),
    (["dq", "doublequote"], single 0x22), (["sq", "singlequote"], single 0x27),
    (["extend"], extending), (["fo", "format"], wordFormat), (["zwj"], single 0x200D),
    (["ri", "regionalindicator"], .bounds regionalIndicatorBounds),
    (["ka", "katakana"], katakanaInWords), (["hl", "hebrewletter"], hebrewLetter),
    (["le", "aletter"], wordLetter), (["nu", "numeric"], numeric),
    (["ml", "midletter"],
      ofPoints [0x3A, 0xB7, 0x387, 0x55F, 0x5F4, 0x2027, 0xFE13, 0xFE55, 0xFF1A]),
    (["mn", "midnum"],
      ofPoints [0x2C, 0x3B, 0x37E, 0x589, 0x60C, 0x60D, 0x66C, 0x7F8, 0x2044, 0xFE50, 0xFE54,
        0xFF0C, 0xFF1B]),
    (["mb", "midnumlet"], ofPoints [0x2E, 0x2018, 0x2019, 0x2024, 0xFE52, 0xFF07, 0xFF0E]),
    (["ex", "extendnumlet"], .union (ofCategories ["pc"]) (single 0x202F)),
    (["wsegspace"], .diff (ofCategories ["zs"]) (ofPoints [0xA0, 0x2007, 0x202F]))]

/-! ### Sentences -/

/-- The letters that may continue a sentence. Georgian ones are no hint, as sentences in Georgian
do not begin with capitals. -/
def lowercaseOfSentences : CharSet :=
  .diff lowercase (unions [extending, .range 0x10D0 0x10FA, .range 0x10FD 0x10FF])

/-- The letters that may begin a sentence, without the capitals of Georgian. -/
def uppercaseOfSentences : CharSet :=
  .diff (.union titlecase uppercase) (unions [.range 0x1C90 0x1CBA, .range 0x1CBD 0x1CBF])

def sentenceSeparator : CharSet := .union (single 0x85) (.range 0x2028 0x2029)

/-- The full stops, which may also mark an abbreviation. -/
def fullStop : CharSet := ofPoints [0x2E, 0x2024, 0xFE52, 0xFF0E]

def sentenceEnd : CharSet := .diff (.bounds sentenceTerminalBounds) fullStop

/-- The brackets and quotation marks. -/
def closing : CharSet :=
  .union (ofCategories ["ps", "pe", "pf", "pi"])
    (unions [
      ofPoints [0x22, 0x27], .range 0x275B 0x2760, .range 0x2E00 0x2E01, .range 0x2E06 0x2E08,
      single 0x2E0B, .range 0x1F676 0x1F678])

def sentenceBreaks : List (List String × CharSet) :=
  [
    (["cr"], single 13), (["lf"], single 10), (["se", "sep"], sentenceSeparator),
    (["sp"], .diff space (.union sentenceSeparator (ofPoints [10, 13]))),
    (["ex", "extend"], unions [ofCategories ["mc"], graphemeExtend, single 0x200D]),
    (["fo", "format"],
      .diff (ofCategories ["cf"]) (unions [joinControl, graphemeExtend, numeric])),
    (["lo", "lower"], lowercaseOfSentences), (["up", "upper"], uppercaseOfSentences),
    (["le", "oletter"],
      .diff (.union alphabetic (single 0x5F3))
        (unions [lowercaseOfSentences, uppercaseOfSentences, extending])),
    (["nu", "numeric"], .union numeric (single 0x66C)), (["at", "aterm"], fullStop),
    (["st", "sterm"], sentenceEnd), (["cl", "close"], closing),
    (["sc", "scontinue"],
      unions [
        .range 0x2C 0x2D, .range 0x3A 0x3B, single 0x37E, single 0x55D, .range 0x60C 0x60D,
        single 0x7F8, single 0x1802, single 0x1808, .range 0x2013 0x2014, single 0x3001,
        .range 0xFE10 0xFE11, .range 0xFE13 0xFE14, .range 0xFE31 0xFE32, .range 0xFE50 0xFE51,
        .range 0xFE54 0xFE55, single 0xFE58, single 0xFE63, .range 0xFF0C 0xFF0D,
        .range 0xFF1A 0xFF1B, single 0xFF64])]

end CharSet

end Conformance.Pattern
