import DocQuery.Pattern.Property.Basic
import DocQuery.Text.Property.Accent
import DocQuery.Text.Property.Control
import DocQuery.Text.Property.Emoji
import DocQuery.Text.Property.Letter
import DocQuery.Text.Property.Sign
import DocQuery.Text.Property.Word

/-!
# Properties that characters have or have not
-/

namespace DocQuery
namespace Pattern
namespace Property

open Text (CharSet)

def letterNames : List (List String × CharSet) :=
  [(["alpha", "alphabetic"], known Text.Property.alphabetic),
    (["oalpha", "otheralphabetic"], known Text.Property.otherAlphabetic),
    (["lower", "lowercase"], lowercase),
    (["olower", "otherlowercase"], known Text.Property.otherLowercase),
    (["upper", "uppercase"], known Text.Property.uppercase),
    (["oupper", "otheruppercase"], known Text.Property.otherUppercase),
    (["cased"], cased),
    (["ci", "caseignorable"], known Text.Property.caseIgnorable),
    (["cwl", "changeswhenlowercased"], known Text.Property.changesWhenLowercased),
    (["cwu", "changeswhenuppercased"], changesWhenUppercased),
    (["cwt", "changeswhentitlecased"], changesWhenTitlecased),
    (["cwcf", "changeswhencasefolded"], known Text.Property.changesWhenCasefolded),
    (["cwcm", "changeswhencasemapped"], changesWhenCasemapped),
    (["sd", "softdotted"], known Text.Property.softDotted),
    (["dia", "diacritic"], known Text.Property.diacritic),
    (["ext", "extender"], known Text.Property.lengthening),
    (["mcm", "modifiercombiningmark"], known Text.Property.combiningModifiers),
    (["loe", "logicalorderexception"], known Text.Property.logicalOrderException)]

/-- The signs of formal languages are known before they are assigned. -/
def identifierNames : List (List String × CharSet) :=
  [(["ids", "idstart"], known Text.Property.idStart),
    (["oids", "otheridstart"], known Text.Property.otherIdStart),
    (["idc", "idcontinue"], known Text.Property.idContinue),
    (["oidc", "otheridcontinue"], known Text.Property.otherIdContinue),
    (["xids", "xidstart"], known Text.Property.xidStart),
    (["xidc", "xidcontinue"], known Text.Property.xidContinue),
    (["idcompatmathstart"], known Text.Property.mathStart),
    (["idcompatmathcontinue"], known Text.Property.mathContinue),
    (["patsyn", "patternsyntax"], Text.Property.patternSyntax),
    (["patws", "patternwhitespace"], known Text.Property.patternSpace)]

def signNames : List (List String × CharSet) :=
  [(["wspace", "whitespace", "space"], space),
    (["dash"], known Text.Property.dashes),
    (["hyphen"], known Text.Property.hyphens),
    (["qmark", "quotationmark"], known Text.Property.quotationMarks),
    (["sterm", "sentenceterminal"], known Text.Property.sentenceEnds),
    (["term", "terminalpunctuation"], known Text.Property.terminalPunctuation),
    (["math"], known Text.Property.math),
    (["omath", "othermath"], known Text.Property.otherMath),
    (["hex", "hexdigit"], known Text.Property.hexDigit),
    (["ahex", "asciihexdigit"], known Text.Property.asciiHexDigit),
    (["bidic", "bidicontrol"], known Text.Property.bidiControl),
    (["joinc", "joincontrol"], known Text.Property.joinControl),
    (["vs", "variationselector"], known Text.Property.variationSelector),
    (["pcm", "prependedconcatenationmark"], known Text.Property.prependedMark),
    (["dep", "deprecated"], known Text.Property.deprecated),
    (["nchar", "noncharactercodepoint"], known Text.Property.noncharacter),
    (["di", "defaultignorablecodepoint"], known Text.Property.defaultIgnorable),
    (["odi", "otherdefaultignorablecodepoint"], known Text.Property.otherDefaultIgnorable)]

/-- Pictures are known before they are assigned. -/
def pictureNames : List (List String × CharSet) :=
  [(["grbase", "graphemebase"], known Text.Property.graphemeBase),
    (["grext", "graphemeextend"], known Text.Property.graphemeExtend),
    (["ogrext", "othergraphemeextend"], known Text.Property.otherGraphemeExtend),
    (["grlink", "graphemelink"], known Text.Property.graphemeLink),
    (["ideo", "ideographic"], known Text.Property.ideographic),
    (["uideo", "unifiedideograph"], known Text.Property.unifiedIdeograph),
    (["radical"], known Text.Property.radical),
    (["idsu", "idsunaryoperator"], known Text.Property.unaryDescription),
    (["idsb", "idsbinaryoperator"], known Text.Property.binaryDescription),
    (["idst", "idstrinaryoperator"], known Text.Property.trinaryDescription),
    (["ri", "regionalindicator"], known Text.Property.regionalIndicator),
    (["emoji"], known Text.Property.emoji),
    (["ecomp", "emojicomponent"], known Text.Property.emojiComponent),
    (["emod", "emojimodifier"], known Text.Property.emojiModifier),
    (["ebase", "emojimodifierbase"], known Text.Property.emojiModifierBase),
    (["epres", "emojipresentation"], known Text.Property.emojiPresentation),
    (["extpict", "extendedpictographic"], Text.Property.pictographic)]

def ofBinary? (name : String) : Option CharSet :=
  lookup? (letterNames ++ identifierNames ++ signNames ++ pictureNames) name

end Property
end Pattern
end DocQuery
