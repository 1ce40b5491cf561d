import DocQuery.Text.Edition.Later
import DocQuery.Text.Property.CaseChange
import DocQuery.Text.Property.Word

/-!
# Properties of characters

How the names of properties are compared, and what patterns know of characters.
-/

namespace DocQuery
namespace Pattern
namespace Property

/-!
# Names of properties

Names are compared without regard to case, spaces, hyphens and underscores, and
to an `is` in front.
-/

/-- The characters of a name that count. -/
def plainName (chars : List Char) : List Char :=
  (chars.filter fun c => c != ' ' && c != '_' && c != '-' && c.toNat < 128).map Char.toLower

/-- The form in which names are compared.  The name `isc` is not the name `c`. -/
def normalName (chars : List Char) : String :=
  match chars with
  | a :: b :: rest =>
      if a.toLower = 'i' ∧ b.toLower = 's' then
        if plainName rest = ['c'] then "isc" else String.ofList (plainName rest)
      else String.ofList (plainName chars)
  | chars => String.ofList (plainName chars)

def lookup? (table : List (List String × α)) (name : String) : Option α :=
  (table.find? fun entry => entry.1.contains name).map Prod.snd

/-!
# Known characters

Patterns know the characters of the sixteenth edition.  Those that came later
have no property but to be unassigned.  What an edition says of an older
character may change, which concerns a letter and the upper case of two others.
-/

open Text (CharSet Category)

def known (set : CharSet) : CharSet :=
  .without set (.table Text.Edition.seventeen.added)

/-- A letter that has become caseless. -/
def onceLowercase : CharSet :=
  .points [0x295]

/-- Letters that have been given an upper case. -/
def onceWithoutUppercase : CharSet :=
  .points [0xa7d3, 0xa7d5]

def category : Category → CharSet
  | .lowerCase => .union (known Category.lowerCase.set) onceLowercase
  | .otherLetter => .without (known Category.otherLetter.set) onceLowercase
  | k => known k.set

def categories (ks : List Category) : CharSet :=
  .unions (ks.map category)

def assigned : CharSet :=
  categories Category.assigned

def unassigned : CharSet :=
  .complement assigned

/-- Everything but the visible characters and the separators. -/
def other : CharSet :=
  .unions [categories [.control, .format, .privateUse], unassigned, .range 0xd7fc 0xf8ff]

def lowercase : CharSet :=
  .union (known Text.Property.lowercase) onceLowercase

def cased : CharSet :=
  .union (known Text.Property.cased) onceLowercase

def changesWhenUppercased : CharSet :=
  .without (known Text.Property.changesWhenUppercased) onceWithoutUppercase

def changesWhenTitlecased : CharSet :=
  .without (known Text.Property.changesWhenTitlecased) onceWithoutUppercase

def changesWhenCasemapped : CharSet :=
  .without (known Text.Property.changesWhenCasemapped) onceWithoutUppercase

/-!
# Class letters
-/

def digit : CharSet :=
  category .decimalNumber

def space : CharSet :=
  known Text.Property.whiteSpace

def word : CharSet :=
  known Text.Property.word

end Property
end Pattern
end DocQuery
