import DocQuery.Text.Cut
import DocQuery.Text.Property.Control
import DocQuery.Text.Property.Letter

/-!
# Words and identifiers

What a word in a text is made of, and a name in a formal language.
-/

namespace DocQuery
namespace Text
namespace Property

/-!
# Words

Words are made of alphabetic characters, marks, decimal digits, connecting
punctuation and the two joiners, and are kept apart by white space.
-/

def word : CharSet :=
  .unions
    [alphabetic, Category.setOf Category.marks, Category.decimalNumber.set,
      Category.connector.set, joinControl]

def whiteSpace : CharSet :=
  .table blankRanges

/-!
# Identifiers

The characters that begin and continue identifiers, and those kept for the
signs of formal languages.
-/

def otherIdStart : CharSet :=
  .table #[(0x1885, 0x1886), (0x2118, 0x2118), (0x212e, 0x212e), (0x309b, 0x309c)]

def idStart : CharSet :=
  .without
    (.unions [Category.setOf Category.letters, Category.letterNumber.set, otherIdStart])
    (.points [0x2e2f])

def otherIdContinue : CharSet :=
  .table #[
    (0xb7, 0xb7), (0x387, 0x387), (0x1369, 0x1371), (0x19da, 0x19da), (0x200c, 0x200d),
    (0x30fb, 0x30fb), (0xff65, 0xff65)]

def idContinue : CharSet :=
  .unions
    [idStart, otherIdContinue,
      Category.setOf [.nonspacingMark, .spacingMark, .decimalNumber, .connector]]

/-- Characters whose compatible forms continue no identifier. -/
def unstable : CharSet :=
  .table #[
    (0x37a, 0x37a), (0x309b, 0x309c), (0xfc5e, 0xfc63), (0xfdfa, 0xfdfb), (0xfe70, 0xfe70),
    (0xfe72, 0xfe72), (0xfe74, 0xfe74), (0xfe76, 0xfe76), (0xfe78, 0xfe78), (0xfe7a, 0xfe7a),
    (0xfe7c, 0xfe7c), (0xfe7e, 0xfe7e)]

def xidStart : CharSet :=
  .without (.without idStart unstable) (.table #[(0xe33, 0xe33), (0xeb3, 0xeb3), (0xff9e, 0xff9f)])

def xidContinue : CharSet :=
  .without idContinue unstable

/-- The mathematical signs that may begin an identifier. -/
def mathStart : CharSet :=
  .table #[
    (0x2202, 0x2202), (0x2207, 0x2207), (0x221e, 0x221e), (0x1d6c1, 0x1d6c1), (0x1d6db, 0x1d6db),
    (0x1d6fb, 0x1d6fb), (0x1d715, 0x1d715), (0x1d735, 0x1d735), (0x1d74f, 0x1d74f),
    (0x1d76f, 0x1d76f), (0x1d789, 0x1d789), (0x1d7a9, 0x1d7a9), (0x1d7c3, 0x1d7c3)]

def mathContinue : CharSet :=
  .table #[
    (0xb2, 0xb3), (0xb9, 0xb9), (0x2070, 0x2070), (0x2074, 0x207e), (0x2080, 0x208e),
    (0x2202, 0x2202), (0x2207, 0x2207), (0x221e, 0x221e), (0x1d6c1, 0x1d6c1), (0x1d6db, 0x1d6db),
    (0x1d6fb, 0x1d6fb), (0x1d715, 0x1d715), (0x1d735, 0x1d735), (0x1d74f, 0x1d74f),
    (0x1d76f, 0x1d76f), (0x1d789, 0x1d789), (0x1d7a9, 0x1d7a9), (0x1d7c3, 0x1d7c3)]

def patternSyntax : CharSet :=
  .table #[
    (0x21, 0x2f), (0x3a, 0x40), (0x5b, 0x5e), (0x60, 0x60), (0x7b, 0x7e), (0xa1, 0xa7),
    (0xa9, 0xa9), (0xab, 0xac), (0xae, 0xae), (0xb0, 0xb1), (0xb6, 0xb6), (0xbb, 0xbb),
    (0xbf, 0xbf), (0xd7, 0xd7), (0xf7, 0xf7), (0x2010, 0x2027), (0x2030, 0x203e), (0x2041, 0x2053),
    (0x2055, 0x205e), (0x2190, 0x245f), (0x2500, 0x2775), (0x2794, 0x2bff), (0x2e00, 0x2e7f),
    (0x3001, 0x3003), (0x3008, 0x3020), (0x3030, 0x3030), (0xfd3e, 0xfd3f), (0xfe45, 0xfe46)]

def patternSpace : CharSet :=
  .table #[(0x9, 0xd), (0x20, 0x20), (0x85, 0x85), (0x200e, 0x200f), (0x2028, 0x2029)]

end Property
end Text
end DocQuery
