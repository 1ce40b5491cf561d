import DocQuery.Pattern.Property.Basic
import DocQuery.Pattern.Property.Binary
import DocQuery.Pattern.Tree
import DocQuery.Text.Break
import DocQuery.Text.Script.Extended

/-!
# Sets of properties

The characters that a pattern asks for by the name of a property.
-/

namespace DocQuery
namespace Pattern

/-!
# General categories by name
-/

namespace Property

open Text (CharSet Category Edition Script)

def categoryNames : List (List String × CharSet) :=
  [(["any"], .range 0 0x10ffff),
    (["ascii"], .range 0 0x7f),
    (["assigned"], assigned),
    (["l", "letter"], categories Category.letters),
    (["lc", "casedletter"], categories [.upperCase, .lowerCase, .titleCase]),
    (["lu", "uppercaseletter"], category .upperCase),
    (["ll", "lowercaseletter"], category .lowerCase),
    (["lt", "titlecaseletter"], category .titleCase),
    (["lm", "modifierletter"], category .modifierLetter),
    (["lo", "otherletter"], category .otherLetter),
    (["m", "mark", "combiningmark"], categories Category.marks),
    (["mn", "nonspacingmark"], category .nonspacingMark),
    (["mc", "spacingmark"], category .spacingMark),
    (["me", "enclosingmark"], category .enclosingMark),
    (["n", "number"], categories Category.numbers),
    (["nd", "decimalnumber", "digit"], digit),
    (["nl", "letternumber"], category .letterNumber),
    (["no", "othernumber"], category .otherNumber),
    (["p", "punctuation", "punct"], categories Category.punctuation),
    (["pc", "connectorpunctuation"], category .connector),
    (["pd", "dashpunctuation"], category .dash),
    (["ps", "openpunctuation"], category .opening),
    (["pe", "closepunctuation"], category .closing),
    (["pi", "initialpunctuation"], category .initialQuote),
    (["pf", "finalpunctuation"], category .finalQuote),
    (["po", "otherpunctuation"], category .otherPunctuation),
    (["s", "symbol"], categories Category.symbols),
    (["sm", "mathsymbol"], category .mathSymbol),
    (["sc", "currencysymbol"], category .currency),
    (["sk", "modifiersymbol"], category .modifierSymbol),
    (["so", "othersymbol"], category .otherSymbol),
    (["z", "separator"], categories Category.separators),
    (["zs", "spaceseparator"], category .spaceSeparator),
    (["zl", "lineseparator"], category .lineSeparator),
    (["zp", "paragraphseparator"], category .paragraphSeparator),
    (["c", "other"], other),
    (["cc", "control", "cntrl"], category .control),
    (["cf", "format"], category .format),
    (["co", "privateuse"], category .privateUse),
    (["cn", "unassigned"], unassigned)]

def ofCategory? (name : String) : Option CharSet :=
  lookup? categoryNames name

/-!
# Scripts and editions by name

A script goes by its code, its name, or another code.  An edition goes by its
number, or by `v` and its digits.
-/

def scriptNames (s : Script) : List String :=
  (s.code :: s.name :: s.otherCodes).map fun name => String.ofList (plainName name.toList)

def findScript? (name : String) : Option Script :=
  Script.all.find? fun s => (scriptNames s).contains name

def ofScript? (name : String) : Option CharSet :=
  (findScript? name).map Script.set

def ofExtended? (name : String) : Option CharSet :=
  (findScript? name).map Script.extended

def editionNames (e : Edition) : List String :=
  [toString e.major ++ "." ++ toString e.minor, "v" ++ toString e.major ++ toString e.minor]

def ofEdition? (name : String) : Option CharSet :=
  ((Edition.all.filter Edition.sixteen.upTo).find? fun e => (editionNames e).contains name).map
    Edition.set

/-!
# Names and values

A name alone is that of a property, a general category or a script, in this
order.  With a value, the name says what the value is looked for in.
-/

def ofName? (name : String) : Option CharSet :=
  (ofBinary? name).or ((ofCategory? name).or (ofScript? name))

def ofGraphemeBreak? (name : String) : Option CharSet :=
  (lookup? Text.GraphemeBreak.classes name).map known

def ofWordBreak? (name : String) : Option CharSet :=
  (lookup? Text.WordBreak.classes name).map known

/-- The letter that has become caseless was a lower case letter of sentences. -/
def ofSentenceBreak? (name : String) : Option CharSet :=
  match name, lookup? Text.SentenceBreak.classes name with
  | "lo", some set | "lower", some set => some (.union (known set) onceLowercase)
  | "le", some set | "oletter", some set => some (.without (known set) onceLowercase)
  | _, set => set.map known

def ofValue? (name value : String) : Option CharSet :=
  match name with
  | "gc" | "generalcategory" => ofCategory? value
  | "sc" | "script" => ofScript? value
  | "scx" | "scriptextensions" => ofExtended? value
  | "age" => ofEdition? value
  | "gcb" | "graphemeclusterbreak" => ofGraphemeBreak? value
  | "wb" | "wordbreak" => ofWordBreak? value
  | "sb" | "sentencebreak" => ofSentenceBreak? value
  | _ => none

end Property

def Query.set? : Query → Option Text.CharSet
  | named name => Property.ofName? (Property.normalName name)
  | valued name value =>
      Property.ofValue? (Property.normalName name) (Property.normalName value)

end Pattern
end DocQuery
