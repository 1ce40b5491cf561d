import DocQuery.Text.Category.Letter
import DocQuery.Text.Category.Mark
import DocQuery.Text.Category.Punctuation
import DocQuery.Text.Category.Symbol
import DocQuery.Text.CharSet.Basic

/-!
# General categories

Every character belongs to one general category.  Code points that are in none
of the tables are unassigned.
-/

namespace DocQuery
namespace Text

inductive Category where
  | upperCase
  | lowerCase
  | titleCase
  | modifierLetter
  | otherLetter
  | nonspacingMark
  | spacingMark
  | enclosingMark
  | decimalNumber
  | letterNumber
  | otherNumber
  | connector
  | dash
  | opening
  | closing
  | initialQuote
  | finalQuote
  | otherPunctuation
  | mathSymbol
  | currency
  | modifierSymbol
  | otherSymbol
  | spaceSeparator
  | lineSeparator
  | paragraphSeparator
  | control
  | format
  | privateUse
  deriving DecidableEq, Repr

namespace Category

def ranges : Category → Array (Nat × Nat)
  | upperCase => upperCaseRanges
  | lowerCase => lowerCaseRanges
  | titleCase => titleCaseRanges
  | modifierLetter => modifierLetterRanges
  | otherLetter => otherLetterRanges
  | nonspacingMark => nonspacingMarkRanges
  | spacingMark => spacingMarkRanges
  | enclosingMark => enclosingMarkRanges
  | decimalNumber => decimalNumberRanges
  | letterNumber => letterNumberRanges
  | otherNumber => otherNumberRanges
  | connector => connectorRanges
  | dash => dashRanges
  | opening => openingRanges
  | closing => closingRanges
  | initialQuote => initialQuoteRanges
  | finalQuote => finalQuoteRanges
  | otherPunctuation => otherPunctuationRanges
  | mathSymbol => mathSymbolRanges
  | currency => currencyRanges
  | modifierSymbol => modifierSymbolRanges
  | otherSymbol => otherSymbolRanges
  | spaceSeparator => spaceSeparatorRanges
  | lineSeparator => lineSeparatorRanges
  | paragraphSeparator => paragraphSeparatorRanges
  | control => controlRanges
  | format => formatRanges
  | privateUse => privateUseRanges

def set (k : Category) : CharSet :=
  .table k.ranges

def setOf (ks : List Category) : CharSet :=
  .unions (ks.map set)

def holds (k : Category) (c : Char) : Bool :=
  k.set.contains c

def letters : List Category :=
  [upperCase, lowerCase, titleCase, modifierLetter, otherLetter]

def marks : List Category :=
  [nonspacingMark, spacingMark, enclosingMark]

def numbers : List Category :=
  [decimalNumber, letterNumber, otherNumber]

def punctuation : List Category :=
  [connector, dash, opening, closing, initialQuote, finalQuote, otherPunctuation]

def symbols : List Category :=
  [mathSymbol, currency, modifierSymbol, otherSymbol]

def separators : List Category :=
  [spaceSeparator, lineSeparator, paragraphSeparator]

/-- The categories of characters that leave a mark when they are written. -/
def visible : List Category :=
  letters ++ marks ++ numbers ++ punctuation ++ symbols

def assigned : List Category :=
  visible ++ separators ++ [control, format, privateUse]

end Category

def isOf (categories : List Category) (c : Char) : Bool :=
  categories.any fun k => k.holds c

def isVisible (c : Char) : Bool :=
  isOf Category.visible c

def isDigit (c : Char) : Bool :=
  Category.decimalNumber.holds c

def isNumeric (c : Char) : Bool :=
  isOf Category.numbers c

end Text
end DocQuery
