import DocQuery.Text.Property.Control
import DocQuery.Text.Property.Emoji
import DocQuery.Text.Property.Letter
import DocQuery.Text.Property.Sign
import DocQuery.Text.Script.East
import DocQuery.Text.Script.India
import DocQuery.Text.Script.NearEast

/-!
# Breaks

The classes of characters that decide where a grapheme, a sentence or a word ends
and the next one begins.
-/

namespace DocQuery
namespace Text

/-!
# Breaks between graphemes
-/

namespace GraphemeBreak

open Property

def unassigned : CharSet :=
  .complement (Category.setOf Category.assigned)

def control : CharSet :=
  .without
    (.union
      (Category.setOf [.lineSeparator, .paragraphSeparator, .control, .format])
      (.common unassigned defaultIgnorable))
    (.unions [.points [0xa, 0xd], joinControl, prependedMark, graphemeExtend])

def extend : CharSet :=
  .union graphemeExtend emojiModifier

/-- Marks and consonants that go with the character after them. -/
def prepend : CharSet :=
  .table #[
    (0x600, 0x605), (0x6dd, 0x6dd), (0x70f, 0x70f), (0x890, 0x891), (0x8e2, 0x8e2), (0xd4e, 0xd4e),
    (0x110bd, 0x110bd), (0x110cd, 0x110cd), (0x111c2, 0x111c3), (0x113d1, 0x113d1),
    (0x1193f, 0x1193f), (0x11941, 0x11941), (0x11a3a, 0x11a3a), (0x11a84, 0x11a89),
    (0x11d46, 0x11d46), (0x11f02, 0x11f02)]

/-- Spacing marks that stand for themselves. -/
def apart : CharSet :=
  .table #[
    (0x102b, 0x102c), (0x1038, 0x1038), (0x1062, 0x1064), (0x1067, 0x106d), (0x1083, 0x1083),
    (0x1087, 0x108c), (0x108f, 0x108f), (0x109a, 0x109c), (0x1a61, 0x1a61), (0x1a63, 0x1a64),
    (0xaa7b, 0xaa7b), (0xaa7d, 0xaa7d), (0x11720, 0x11721)]

def spacingMark : CharSet :=
  .without (.union Category.spacingMark.set (.points [0xe33, 0xeb3])) (.union graphemeExtend apart)

/-!
# Hangul

A syllable of Hangul is a leading consonant, a vowel, and perhaps a trailing
consonant.  Written as one character it has the first two, or all three.
-/

def leading : CharSet :=
  .table #[(0x1100, 0x115f), (0xa960, 0xa97c)]

def vowel : CharSet :=
  .table #[(0x1160, 0x11a7), (0xd7b0, 0xd7c6), (0x16d63, 0x16d63), (0x16d67, 0x16d6a)]

def trailing : CharSet :=
  .table #[(0x11a8, 0x11ff), (0xd7cb, 0xd7fb)]

def openSyllable : CharSet :=
  .points ((List.range 399).map fun k => 0xac00 + 28 * k)

def closedSyllable : CharSet :=
  .without (.range 0xac00 0xd7a3) openSyllable

def classes : List (List String × CharSet) :=
  [(["cn", "control"], control), (["cr"], .points [0xd]), (["lf"], .points [0xa]),
    (["ex", "extend"], extend), (["pp", "prepend"], prepend), (["sm", "spacingmark"], spacingMark),
    (["l"], leading), (["v"], vowel), (["t"], trailing), (["lv"], openSyllable),
    (["lvt"], closedSyllable), (["ri", "regionalindicator"], regionalIndicator),
    (["zwj"], .points [0x200d])]

end GraphemeBreak

/-!
# Breaks between sentences
-/

namespace SentenceBreak

open Property

def separator : CharSet :=
  .points [0x85, 0x2028, 0x2029]

def space : CharSet :=
  .table #[
    (0x9, 0x9), (0xb, 0xc), (0x20, 0x20), (0xa0, 0xa0), (0x1680, 0x1680), (0x2000, 0x200a),
    (0x202f, 0x202f), (0x205f, 0x205f), (0x3000, 0x3000)]

def extend : CharSet :=
  .unions [graphemeExtend, Category.spacingMark.set, .points [0x200d]]

def format : CharSet :=
  .without Category.format.set (.unions [graphemeExtend, prependedMark, .points [0x200d]])

/-- Georgian letters do not tell where a sentence begins. -/
def lower : CharSet :=
  .without lowercase
    (.union graphemeExtend (.table #[(0x10d0, 0x10fa), (0x10fd, 0x10ff)]))

def upper : CharSet :=
  .without (.union uppercase Category.titleCase.set)
    (.table #[(0x1c90, 0x1cba), (0x1cbd, 0x1cbf)])

def otherLetter : CharSet :=
  .without (.union alphabetic (.points [0x5f3])) (.unions [lower, upper, extend])

def numeric : CharSet :=
  .without (.unions [Category.decimalNumber.set, prependedMark, .range 0x66b 0x66c])
    (.points [0x70f])

def fullStop : CharSet :=
  .points [0x2e, 0x2024, 0xfe52, 0xff0e]

def otherEnd : CharSet :=
  .without sentenceEnds fullStop

/-- Marks after which the sentence goes on. -/
def goesOn : CharSet :=
  .table #[
    (0x2c, 0x2d), (0x3a, 0x3b), (0x37e, 0x37e), (0x55d, 0x55d), (0x60c, 0x60d), (0x7f8, 0x7f8),
    (0x1802, 0x1802), (0x1808, 0x1808), (0x2013, 0x2014), (0x3001, 0x3001), (0xfe10, 0xfe11),
    (0xfe13, 0xfe14), (0xfe31, 0xfe32), (0xfe50, 0xfe51), (0xfe54, 0xfe55), (0xfe58, 0xfe58),
    (0xfe63, 0xfe63), (0xff0c, 0xff0d), (0xff1a, 0xff1b), (0xff64, 0xff64)]

def quotes : CharSet :=
  .table #[
    (0x22, 0x22), (0x27, 0x27), (0xab, 0xab), (0xbb, 0xbb), (0x2018, 0x2019), (0x201b, 0x201d),
    (0x201f, 0x201f), (0x2039, 0x203a), (0x275b, 0x2760), (0x2e00, 0x2e0d), (0x2e1c, 0x2e1d),
    (0x2e20, 0x2e21), (0x1f676, 0x1f678)]

def close : CharSet :=
  .union quotes (Category.setOf [.opening, .closing])

def classes : List (List String × CharSet) :=
  [(["cr"], .points [0xd]), (["lf"], .points [0xa]), (["se", "sep"], separator), (["sp"], space),
    (["ex", "extend"], extend), (["fo", "format"], format), (["lo", "lower"], lower),
    (["up", "upper"], upper), (["le", "oletter"], otherLetter), (["nu", "numeric"], numeric),
    (["at", "aterm"], fullStop), (["st", "sterm"], otherEnd), (["sc", "scontinue"], goesOn),
    (["cl", "close"], close)]

end SentenceBreak

/-!
# Breaks between words
-/

namespace WordBreak

open Property

def newline : CharSet :=
  .table #[(0xb, 0xc), (0x85, 0x85), (0x2028, 0x2029)]

def extend : CharSet :=
  .without (.unions [graphemeExtend, Category.spacingMark.set, emojiModifier]) (.points [0x200d])

def format : CharSet :=
  .without Category.format.set (.unions [.range 0x200b 0x200d, graphemeExtend, prependedMark])

def katakana : CharSet :=
  .union Script.katakana.set
    (.table #[
      (0x3031, 0x3035), (0x309b, 0x309c), (0x30a0, 0x30a0), (0x30fc, 0x30fc), (0xff70, 0xff70)])

def hebrewLetter : CharSet :=
  .common Script.hebrew.set Category.otherLetter.set

/-- Scripts that are written without breaks between words. -/
def unbroken : List Script :=
  [.thai, .lao, .myanmar, .khmer, .taiLe, .newTaiLue, .taiTham, .taiViet, .ahom, .hiragana]

/-- Signs that go with letters. -/
def letterSigns : CharSet :=
  .table #[
    (0x2c2, 0x2c5), (0x2d2, 0x2d7), (0x2de, 0x2df), (0x2e5, 0x2eb), (0x2ed, 0x2ed), (0x2ef, 0x2ff),
    (0x55a, 0x55c), (0x55e, 0x55e), (0x58a, 0x58a), (0x5f3, 0x5f3), (0x70f, 0x70f),
    (0xa708, 0xa716), (0xa720, 0xa721), (0xa789, 0xa78a), (0xab5b, 0xab5b)]

def letter : CharSet :=
  .union letterSigns
    (.without alphabetic
      (.unions (ideographic :: katakana :: hebrewLetter :: extend :: unbroken.map Script.set)))

def numeric : CharSet :=
  .without (.unions [Category.decimalNumber.set, prependedMark, .points [0x66b]]) (.points [0x70f])

def numberLink : CharSet :=
  .union Category.connector.set (.points [0x202f])

def midLetter : CharSet :=
  .table #[
    (0x3a, 0x3a), (0xb7, 0xb7), (0x387, 0x387), (0x55f, 0x55f), (0x5f4, 0x5f4), (0x2027, 0x2027),
    (0xfe13, 0xfe13), (0xfe55, 0xfe55), (0xff1a, 0xff1a)]

def midNumber : CharSet :=
  .table #[
    (0x2c, 0x2c), (0x3b, 0x3b), (0x37e, 0x37e), (0x589, 0x589), (0x60c, 0x60d), (0x66c, 0x66c),
    (0x7f8, 0x7f8), (0x2044, 0x2044), (0xfe10, 0xfe10), (0xfe14, 0xfe14), (0xfe50, 0xfe50),
    (0xfe54, 0xfe54), (0xff0c, 0xff0c), (0xff1b, 0xff1b)]

def midEither : CharSet :=
  .table #[
    (0x2e, 0x2e), (0x2018, 0x2019), (0x2024, 0x2024), (0xfe52, 0xfe52), (0xff07, 0xff07),
    (0xff0e, 0xff0e)]

def spaces : CharSet :=
  .table #[
    (0x20, 0x20), (0x1680, 0x1680), (0x2000, 0x2006), (0x2008, 0x200a), (0x205f, 0x205f),
    (0x3000, 0x3000)]

def classes : List (List String × CharSet) :=
  [(["cr"], .points [0xd]), (["lf"], .points [0xa]), (["nl", "newline"], newline),
    (["dq", "doublequote"], .points [0x22]), (["sq", "singlequote"], .points [0x27]),
    (["ex", "extendnumlet"], numberLink), (["extend"], extend), (["fo", "format"], format),
    (["hl", "hebrewletter"], hebrewLetter), (["ka", "katakana"], katakana),
    (["le", "aletter"], letter), (["mb", "midnumlet"], midEither), (["ml", "midletter"], midLetter),
    (["mn", "midnum"], midNumber), (["nu", "numeric"], numeric),
    (["ri", "regionalindicator"], regionalIndicator), (["wsegspace"], spaces),
    (["zwj"], .points [0x200d])]

end WordBreak
end Text
end DocQuery
