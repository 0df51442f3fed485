/-
# Sets of characters by text boundaries

What a character does for the boundaries of clusters, of words and of sentences. Each of the three
properties has one value for every character; patterns do not name the value `Other` of the
characters that do nothing.
-/

import SurveyLogic.Pattern.Property.Binary
import SurveyLogic.Pattern.Property.Script

namespace SurveyLogic
namespace Pattern
namespace Boundary

open CharSet (single unionOf)

/-- The property `Prepended_Concatenation_Mark`. -/
def prepended : CharSet := Listed.prependedConcatenationMark

/-- The joiner of width zero. -/
def joiner : CharSet := single '\u200d'

/-- The syllables with a consonant at their end: all but the first of every 28. -/
def closedSyllable : CharSet :=
  (List.range 399).map fun n => (0xac00 + 28 * n + 1, 0xac00 + 28 * n + 27)

/-- The values of `Grapheme_Cluster_Break` by their names. -/
def cluster : List (List String × CharSet) := [
  (["cn", "control"],
    CharSet.without
      (CharSet.union (Category.setOf [.control, .format, .lineSeparator, .paragraphSeparator])
        (CharSet.inter Category.unassigned Property.defaultIgnorable))
      (unionOf [
        single '\r', single '\n', joiner, prepended, Property.graphemeExtend])),
  (["cr"], single '\r'),
  (["ex", "extend"],
    CharSet.union Property.graphemeExtend Listed.emojiModifier),
  (["l"], leadingConsonants),
  (["lf"], single '\n'),
  (["lv"], CharSet.without syllables closedSyllable),
  (["lvt"], closedSyllable),
  (["pp", "prepend"], CharSet.union prepended leading),
  (["ri", "regionalindicator"], Listed.regionalIndicator),
  (["sm", "spacingmark"],
    CharSet.without
      (CharSet.union (Category.ranges .spacingMark) spacingLetters)
      (CharSet.union Property.graphemeExtend separateMarks)),
  (["t"], trailingConsonants),
  (["v"], vowels),
  (["zwj"], joiner)]

/-- The characters of a script. -/
def ofScript (name : String) : CharSet :=
  (Script.named? name).getD []

/-- Hebrew letters. -/
def hebrewLetter : CharSet :=
  CharSet.inter (Category.ranges .otherLetter) (ofScript "hebr")

/-- Hiragana. -/
def hiragana : CharSet := ofScript "hira"

/-- Katakana and its signs. -/
def katakana : CharSet :=
  CharSet.union (ofScript "kana") kanaSigns

/-- Marks and what else goes on with the character before it. -/
def extending : CharSet :=
  CharSet.union Property.graphemeExtend (Category.ranges .spacingMark)

/-- The digits and signs of numbers, an Arabic separator of thousands not among them. -/
def digits : CharSet :=
  CharSet.union (Category.ranges .decimalNumber)
    (CharSet.without (CharSet.union prepended (single '\u066b')) (single '\u070f'))

/-- The letters of words. -/
def wordLetter : CharSet :=
  CharSet.without (CharSet.union Property.alphabetic letterlike)
    (unionOf [
      Listed.ideographic, katakana, unspaced, hiragana,
      extending, hebrewLetter])

/-- The values of `Word_Break` by their names. -/
def word : List (List String × CharSet) := [
  (["cr"], single '\r'),
  (["dq", "doublequote"], single '"'),
  (["ex", "extendnumlet"],
    CharSet.union (Category.ranges .connectorPunctuation) (single '\u202f')),
  (["extend"], CharSet.union extending Listed.emojiModifier),
  (["fo", "format"],
    CharSet.without (Category.ranges .format)
      (unionOf [single '\u200b', joiner, prepended, extending])),
  (["hl", "hebrewletter"], hebrewLetter),
  (["ka", "katakana"], katakana),
  (["le", "aletter"], wordLetter),
  (["lf"], single '\n'),
  (["mb", "midnumlet"], midNumLet),
  (["ml", "midletter"], midLetter),
  (["mn", "midnum"], midNum),
  (["nl", "newline"], [(0xb, 0xc), (0x85, 0x85), (0x2028, 0x2029)]),
  (["nu", "numeric"], digits),
  (["ri", "regionalindicator"], Listed.regionalIndicator),
  (["sq", "singlequote"], single '\''),
  (["wsegspace"], wordSpace),
  (["zwj"], joiner)]

/-- What goes on with the character before it inside a sentence. -/
def sentenceExtend : CharSet := CharSet.union extending joiner

/-- Small letters of sentences. -/
def smallLetter : CharSet :=
  CharSet.without Property.lowercase (CharSet.union extending georgianSmall)

/-- Capitals that begin sentences. -/
def capitalLetter : CharSet :=
  CharSet.without (CharSet.union Property.uppercase (Category.ranges .titlecaseLetter))
    georgianCapital

/-- The ends of sentences that are no points. -/
def sentenceEnd : CharSet :=
  CharSet.without Listed.sentenceTerminal fullStop

/-- Ends of lines that part sentences. -/
def lineEnd : CharSet := [(0x85, 0x85), (0x2028, 0x2029)]

/-- The values of `Sentence_Break` by their names. -/
def sentence : List (List String × CharSet) := [
  (["at", "aterm"], fullStop),
  (["cl", "close"],
    CharSet.union (Category.setOf Category.enclosingPunctuation) quoteSigns),
  (["cr"], single '\r'),
  (["ex", "extend"], sentenceExtend),
  (["fo", "format"],
    CharSet.without (Category.ranges .format) (CharSet.union sentenceExtend prepended)),
  (["le", "oletter"],
    CharSet.without
      (unionOf [Property.alphabetic, single '\u05f3', single '\u070f'])
      (unionOf [smallLetter, capitalLetter, sentenceExtend])),
  (["lf"], single '\n'),
  (["lo", "lower"], smallLetter),
  (["nu", "numeric"], CharSet.union digits (single '\u066c')),
  (["sc", "scontinue"], continuation),
  (["se", "sep"], lineEnd),
  (["sp"],
    CharSet.without Listed.whiteSpace (unionOf [lineEnd, single '\r', single '\n'])),
  (["st", "sterm"], sentenceEnd),
  (["up", "upper"], capitalLetter)]

end Boundary
end Pattern
end SurveyLogic
