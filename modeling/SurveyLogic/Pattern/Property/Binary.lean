/-
# Properties that a character has or has not

Most are listed by the Unicode standard. The others are made of general categories and of lists of
exceptions, as the standard derives them:

| property | what it is made of |
| --- | --- |
| `Alphabetic` | letters, letter numerals and a list |
| `Lowercase`, `Uppercase` | the category and a list |
| `Cased` | the two and the letters in title case |
| `Case_Ignorable` | marks, format controls, modifiers and signs inside words |
| `Math` | the category and a list |
| `ID_Start` | letters, letter numerals and a list, without syntax |
| `ID_Continue` | these, marks, digits, connectors and a list |
| `Default_Ignorable_Code_Point` | format controls, variation selectors and a list |
| `Grapheme_Extend` | marks that take no room and a list |
| `Grapheme_Base` | the assigned characters that print and do not extend others |

Words are made of alphabetic characters, marks, decimal digits, connectors and joiners.
-/

import SurveyLogic.Pattern.Property.BoundaryTable
import SurveyLogic.Pattern.Property.Group
import SurveyLogic.Pattern.Property.ListedTable

namespace SurveyLogic
namespace Pattern
namespace Property

open CharSet (unionOf)

/-- Letters and letter numerals. -/
def letters : CharSet :=
  Category.setOf (.letterNumber :: Category.letters)

/-- The property `Alphabetic`. -/
def alphabetic : CharSet :=
  CharSet.union letters Listed.otherAlphabetic

/-- The property `Lowercase`. -/
def lowercase : CharSet :=
  CharSet.union (Category.ranges .lowercaseLetter) Listed.otherLowercase

/-- The property `Uppercase`. -/
def uppercase : CharSet :=
  CharSet.union (Category.ranges .uppercaseLetter) Listed.otherUppercase

/-- The property `Cased`. -/
def cased : CharSet :=
  unionOf [lowercase, uppercase, Category.ranges .titlecaseLetter]

/-- The property `Case_Ignorable`. -/
def caseIgnorable : CharSet :=
  unionOf [
    Category.setOf [.nonspacingMark, .enclosingMark, .format, .modifierLetter, .modifierSymbol],
    Boundary.midLetter, Boundary.midNumLet, CharSet.single '\'']

/-- The property `Changes_When_Titlecased`. Georgian letters have capitals and yet no title case,
and letters in title case stay what they are. -/
def changesWhenTitlecased : CharSet :=
  let titled : Text.Ranges :=
    [(0x1c5, 0x1c5), (0x1c8, 0x1c8), (0x1cb, 0x1cb), (0x1f2, 0x1f2), (0x10d0, 0x10fa),
     (0x10fd, 0x10ff), (0x1f88, 0x1f8f), (0x1f98, 0x1f9f), (0x1fa8, 0x1faf), (0x1fbc, 0x1fbc),
     (0x1fcc, 0x1fcc), (0x1ffc, 0x1ffc)]
  let digraphs : Text.Ranges :=
    [(0x1c4, 0x1c4), (0x1c7, 0x1c7), (0x1ca, 0x1ca), (0x1f1, 0x1f1)]
  CharSet.without (CharSet.union Listed.changesWhenUppercased digraphs)
    titled

/-- The property `Changes_When_Casefolded`. Case folding goes to small letters, but for Cherokee,
and it also joins variants of small letters. -/
def changesWhenCasefolded : CharSet :=
  let variants : Text.Ranges :=
    [(0xb5, 0xb5), (0xdf, 0xdf), (0x149, 0x149), (0x17f, 0x17f), (0x345, 0x345), (0x3c2, 0x3c2),
     (0x3d0, 0x3d1), (0x3d5, 0x3d6), (0x3f0, 0x3f1), (0x3f5, 0x3f5), (0x587, 0x587),
     (0x13f8, 0x13fd), (0x1c80, 0x1c88), (0x1e9a, 0x1e9b), (0x1f80, 0x1f87), (0x1f90, 0x1f97),
     (0x1fa0, 0x1fa7), (0x1fb2, 0x1fb4), (0x1fb7, 0x1fb7), (0x1fc2, 0x1fc4), (0x1fc7, 0x1fc7),
     (0x1ff2, 0x1ff4), (0x1ff7, 0x1ff7), (0xab70, 0xabbf), (0xfb00, 0xfb06), (0xfb13, 0xfb17)]
  CharSet.without (CharSet.union Listed.changesWhenLowercased variants)
    [(0x13a0, 0x13f5)]

/-- The property `Changes_When_Casemapped`. -/
def changesWhenCasemapped : CharSet :=
  unionOf [
    Listed.changesWhenLowercased, Listed.changesWhenUppercased,
    changesWhenTitlecased]

/-- The property `Math`. -/
def math : CharSet :=
  CharSet.union (Category.ranges .mathSymbol) Listed.otherMath

/-- The characters that have a meaning in patterns of any kind. -/
def patternSigns : CharSet :=
  CharSet.union Listed.patternSyntax Listed.patternWhiteSpace

/-- The property `ID_Start`. -/
def idStart : CharSet :=
  CharSet.without (CharSet.union letters Listed.otherIdStart) patternSigns

/-- The property `ID_Continue`. -/
def idContinue : CharSet :=
  CharSet.union idStart
    (CharSet.without
      (CharSet.union
        (Category.setOf [.nonspacingMark, .spacingMark, .decimalNumber, .connectorPunctuation])
        Listed.otherIdContinue)
      patternSigns)

/-- The characters of names that would be none after they are put in normal form. -/
def unstable : Text.Ranges :=
  [(0x37a, 0x37a), (0x309b, 0x309c), (0xfc5e, 0xfc63), (0xfdfa, 0xfdfb), (0xfe70, 0xfe70),
   (0xfe72, 0xfe72), (0xfe74, 0xfe74), (0xfe76, 0xfe76), (0xfe78, 0xfe78), (0xfe7a, 0xfe7a),
   (0xfe7c, 0xfe7c), (0xfe7e, 0xfe7e)]

/-- The property `XID_Start`. -/
def xidStart : CharSet :=
  CharSet.without idStart
    (CharSet.union unstable
      [(0xe33, 0xe33), (0xeb3, 0xeb3), (0xff9e, 0xff9f)])

/-- The property `XID_Continue`. -/
def xidContinue : CharSet :=
  CharSet.without idContinue unstable

/-- The property `Default_Ignorable_Code_Point`. Format controls that show are none. -/
def defaultIgnorable : CharSet :=
  CharSet.without
    (unionOf [
      Category.ranges .format, Listed.variationSelector,
      Listed.otherDefaultIgnorable])
    (unionOf [
      Listed.whiteSpace, Listed.prependedConcatenationMark,
      [(0xfff9, 0xfffb), (0x13430, 0x13440)]])

/-- The property `Grapheme_Extend`. -/
def graphemeExtend : CharSet :=
  CharSet.union (Category.setOf [.nonspacingMark, .enclosingMark])
    Listed.otherGraphemeExtend

/-- The property `Grapheme_Base`. -/
def graphemeBase : CharSet :=
  CharSet.without CharSet.all
    (unionOf [
      Category.setOf [.control, .format, .privateUse, .lineSeparator, .paragraphSeparator],
      Category.unassigned, graphemeExtend])

/-- The characters of words. -/
def word : CharSet :=
  unionOf [
    alphabetic, Category.setOf (.decimalNumber :: .connectorPunctuation :: Category.marks),
    Listed.joinControl]

/-- The properties by their names in loose form. -/
def binary : List (List String × CharSet) := [
  (["ahex", "asciihexdigit"], Listed.asciiHexDigit),
  (["alpha", "alphabetic"], alphabetic),
  (["bidic", "bidicontrol"], Listed.bidiControl),
  (["cased"], cased),
  (["ci", "caseignorable"], caseIgnorable),
  (["cwcf", "changeswhencasefolded"], changesWhenCasefolded),
  (["cwcm", "changeswhencasemapped"], changesWhenCasemapped),
  (["cwl", "changeswhenlowercased"], Listed.changesWhenLowercased),
  (["cwt", "changeswhentitlecased"], changesWhenTitlecased),
  (["cwu", "changeswhenuppercased"], Listed.changesWhenUppercased),
  (["dash"], Listed.dash),
  (["dep", "deprecated"], Listed.deprecated),
  (["di", "defaultignorablecodepoint"], defaultIgnorable),
  (["dia", "diacritic"], Listed.diacritic),
  (["ebase", "emojimodifierbase"], Listed.emojiModifierBase),
  (["ecomp", "emojicomponent"], Listed.emojiComponent),
  (["emod", "emojimodifier"], Listed.emojiModifier),
  (["emoji"], Listed.emoji),
  (["epres", "emojipresentation"], Listed.emojiPresentation),
  (["ext", "extender"], Listed.extender),
  (["extpict", "extendedpictographic"], Listed.extendedPictographic),
  (["grbase", "graphemebase"], graphemeBase),
  (["grext", "graphemeextend"], graphemeExtend),
  (["grlink", "graphemelink"], Listed.graphemeLink),
  (["hex", "hexdigit"], Listed.hexDigit),
  (["hyphen"], Listed.hyphen),
  (["idc", "idcontinue"], idContinue),
  (["idcompatmathcontinue"], Listed.idCompatMathContinue),
  (["idcompatmathstart"], Listed.idCompatMathStart),
  (["ideo", "ideographic"], Listed.ideographic),
  (["ids", "idstart"], idStart),
  (["idsb", "idsbinaryoperator"], Listed.idsBinaryOperator),
  (["idst", "idstrinaryoperator"], Listed.idsTrinaryOperator),
  (["idsu", "idsunaryoperator"], Listed.idsUnaryOperator),
  (["joinc", "joincontrol"], Listed.joinControl),
  (["loe", "logicalorderexception"], Listed.logicalOrderException),
  (["lower", "lowercase"], lowercase),
  (["math"], math),
  (["mcm", "modifiercombiningmark"], Listed.modifierCombiningMark),
  (["nchar", "noncharactercodepoint"], Listed.noncharacter),
  (["oalpha", "otheralphabetic"], Listed.otherAlphabetic),
  (["odi", "otherdefaultignorablecodepoint"], Listed.otherDefaultIgnorable),
  (["ogrext", "othergraphemeextend"], Listed.otherGraphemeExtend),
  (["oidc", "otheridcontinue"], Listed.otherIdContinue),
  (["oids", "otheridstart"], Listed.otherIdStart),
  (["olower", "otherlowercase"], Listed.otherLowercase),
  (["omath", "othermath"], Listed.otherMath),
  (["oupper", "otheruppercase"], Listed.otherUppercase),
  (["patsyn", "patternsyntax"], Listed.patternSyntax),
  (["patws", "patternwhitespace"], Listed.patternWhiteSpace),
  (["pcm", "prependedconcatenationmark"], Listed.prependedConcatenationMark),
  (["qmark", "quotationmark"], Listed.quotationMark),
  (["radical"], Listed.radical),
  (["ri", "regionalindicator"], Listed.regionalIndicator),
  (["sd", "softdotted"], Listed.softDotted),
  (["sterm", "sentenceterminal"], Listed.sentenceTerminal),
  (["term", "terminalpunctuation"], Listed.terminalPunctuation),
  (["uideo", "unifiedideograph"], Listed.unifiedIdeograph),
  (["upper", "uppercase"], uppercase),
  (["vs", "variationselector"], Listed.variationSelector),
  (["wspace", "whitespace", "space"], Listed.whiteSpace),
  (["xidc", "xidcontinue"], xidContinue),
  (["xids", "xidstart"], xidStart)]

/-- The set that the name of a property stands for. -/
def binary? (name : String) : Option CharSet :=
  CharSet.named? binary name

end Property
end Pattern
end SurveyLogic
