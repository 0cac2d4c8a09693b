import Conformance.Pattern.Property
import Conformance.Pattern.TraitTable
/-!
Traits of characters: properties that a character has or has not, under the names that patterns
give them. The larger ones are composed of general categories and a table of further characters.
-/

namespace Conformance.Pattern

namespace CharSet

/-! ### Letters and their case -/

/-- The categories of letters and of numbers that are written as letters. -/
def letterCategories : List String := ["lu", "ll", "lt", "lm", "lo", "nl"]

def alphabetic : CharSet :=
  .union (ofCategories letterCategories) (.bounds otherAlphabeticBounds)

def lowercase : CharSet := .union (ofCategories ["ll"]) (.bounds otherLowercaseBounds)

def uppercase : CharSet := .union (ofCategories ["lu"]) (.bounds otherUppercaseBounds)

def titlecase : CharSet := ofCategories ["lt"]

/-- The characters with a letter case. -/
def cased : CharSet := unions [lowercase, uppercase, titlecase]

/-- The characters without influence on the letter case of those around them. -/
def caseIgnorable : CharSet :=
  .union (ofCategories ["mn", "me", "cf", "lm", "sk"]) (.bounds caseIgnorableBounds)

def changesWhenLowercased : CharSet :=
  .diff (.union uppercase titlecase) (.bounds fixedUnderLowercaseBounds)

def changesWhenUppercased : CharSet :=
  .diff (.union lowercase titlecase) (.bounds fixedUnderUppercaseBounds)

def changesWhenTitlecased : CharSet :=
  .union (.diff changesWhenUppercased (.bounds fixedUnderTitlecaseBounds))
    (.bounds furtherTitlecasedBounds)

/-- The characters that case folding changes. The capitals of Cherokee are what their letters fold
to. -/
def changesWhenCasefolded : CharSet :=
  .union (.diff changesWhenLowercased (.range 0x13A0 0x13F5)) (.bounds onlyFoldedBounds)

/-- The characters that some map of letter case changes. -/
def changesWhenCasemapped : CharSet :=
  unions [changesWhenLowercased, changesWhenUppercased, changesWhenTitlecased]

/-! ### Identifiers -/

/-- The marks and blanks that no identifier holds. -/
def formalMark : CharSet := .union (.bounds patternMarkBounds) (.bounds patternSpaceBounds)

def idStart : CharSet :=
  .diff (.union (ofCategories letterCategories) (.bounds otherIdStartBounds)) formalMark

def idContinue : CharSet :=
  .diff
    (unions [
      ofCategories (letterCategories ++ ["mn", "mc", "nd", "pc"]), .bounds otherIdStartBounds,
      .bounds otherIdContinueBounds])
    formalMark

/-- The same for identifiers that stay so when compatible characters are replaced. -/
def stableIdStart : CharSet := .diff idStart (.bounds shiftingStartBounds)

def stableIdContinue : CharSet := .diff idContinue (.bounds shiftingContinueBounds)

/-! ### Clusters, blanks and symbols -/

/-- The characters that extend the cluster in front of them. -/
def graphemeExtend : CharSet :=
  .union (ofCategories ["mn", "me"]) (.bounds otherGraphemeExtendBounds)

/-- The characters that begin a cluster: no controls, and none that extend one. -/
def graphemeBase : CharSet :=
  .diff (.complement (ofCategories ["cc", "cf", "cn", "co", "zl", "zp"])) graphemeExtend

def math : CharSet := .union (ofCategories ["sm"]) (.bounds otherMathBounds)

def space : CharSet := .bounds whiteSpaceBounds

def joinControl : CharSet := .bounds joinControlBounds

/-- The characters of words: letters, marks, decimal digits, connectors and joiners. -/
def word : CharSet :=
  unions [
    ofCategories (letterCategories ++ ["mn", "mc", "me", "nd", "pc"]),
    .bounds otherAlphabeticBounds, joinControl]

/-- The traits under their names, in lower case and without marks. -/
def traits : List (List String × CharSet) :=
  [
    (["alpha", "alphabetic"], alphabetic),
    (["lower", "lowercase"], lowercase),
    (["upper", "uppercase"], uppercase),
    (["cased"], cased),
    (["ci", "caseignorable"], caseIgnorable),
    (["cwl", "changeswhenlowercased"], changesWhenLowercased),
    (["cwu", "changeswhenuppercased"], changesWhenUppercased),
    (["cwt", "changeswhentitlecased"], changesWhenTitlecased),
    (["cwcf", "changeswhencasefolded"], changesWhenCasefolded),
    (["cwcm", "changeswhencasemapped"], changesWhenCasemapped),
    (["ids", "idstart"], idStart),
    (["idc", "idcontinue"], idContinue),
    (["xids", "xidstart"], stableIdStart),
    (["xidc", "xidcontinue"], stableIdContinue),
    (["grbase", "graphemebase"], graphemeBase),
    (["grext", "graphemeextend"], graphemeExtend),
    (["math"], math),
    (["wspace", "whitespace", "space"], space),
    (["joinc", "joincontrol"], joinControl),
    (["oalpha", "otheralphabetic"], .bounds otherAlphabeticBounds),
    (["olower", "otherlowercase"], .bounds otherLowercaseBounds),
    (["oupper", "otheruppercase"], .bounds otherUppercaseBounds),
    (["omath", "othermath"], .bounds otherMathBounds),
    (["oids", "otheridstart"], .bounds otherIdStartBounds),
    (["oidc", "otheridcontinue"], .bounds otherIdContinueBounds),
    (["ogrext", "othergraphemeextend"], .bounds otherGraphemeExtendBounds),
    (["odi", "otherdefaultignorablecodepoint"], .bounds otherDefaultIgnorableBounds),
    (["di", "defaultignorablecodepoint"], .bounds defaultIgnorableBounds),
    (["ahex", "asciihexdigit"], .bounds asciiHexDigitBounds),
    (["bidic", "bidicontrol"], .bounds bidiControlBounds),
    (["bidim", "bidimirrored"], .bounds bidiMirroredBounds),
    (["dash"], .bounds dashBounds),
    (["dep", "deprecated"], .bounds deprecatedBounds),
    (["dia", "diacritic"], .bounds diacriticBounds),
    (["emoji"], .bounds emojiBounds),
    (["ecomp", "emojicomponent"], .bounds emojiComponentBounds),
    (["emod", "emojimodifier"], .bounds emojiModifierBounds),
    (["ebase", "emojimodifierbase"], .bounds emojiModifierBaseBounds),
    (["epres", "emojipresentation"], .bounds emojiPresentationBounds),
    (["extpict", "extendedpictographic"], .bounds extendedPictographicBounds),
    (["ext", "extender"], .bounds extenderBounds),
    (["grlink", "graphemelink"], .bounds graphemeLinkBounds),
    (["hex", "hexdigit"], .bounds hexDigitBounds),
    (["hyphen"], .bounds hyphenBounds),
    (["idcompatmathstart"], .bounds mathStartBounds),
    (["idcompatmathcontinue"], .bounds mathContinueBounds),
    (["ideo", "ideographic"], .bounds ideographicBounds),
    (["idsb", "idsbinaryoperator"], .bounds idsBinaryOperatorBounds),
    (["idst", "idstrinaryoperator"], .bounds idsTrinaryOperatorBounds),
    (["idsu", "idsunaryoperator"], .bounds idsUnaryOperatorBounds),
    (["loe", "logicalorderexception"], .bounds logicalOrderExceptionBounds),
    (["mcm", "modifiercombiningmark"], .bounds modifierCombiningMarkBounds),
    (["nchar", "noncharactercodepoint"], .bounds noncharacterCodePointBounds),
    (["patsyn", "patternsyntax"], .bounds patternMarkBounds),
    (["patws", "patternwhitespace"], .bounds patternSpaceBounds),
    (["pcm", "prependedconcatenationmark"], .bounds prependedConcatenationMarkBounds),
    (["qmark", "quotationmark"], .bounds quotationMarkBounds),
    (["radical"], .bounds radicalBounds),
    (["ri", "regionalindicator"], .bounds regionalIndicatorBounds),
    (["sterm", "sentenceterminal"], .bounds sentenceTerminalBounds),
    (["sd", "softdotted"], .bounds softDottedBounds),
    (["term", "terminalpunctuation"], .bounds terminalPunctuationBounds),
    (["uideo", "unifiedideograph"], .bounds unifiedIdeographBounds),
    (["vs", "variationselector"], .bounds variationSelectorBounds)]

/-- A trait by its plain name. -/
def ofTrait? (name : String) : Option CharSet := named? traits name

end CharSet

end Conformance.Pattern
