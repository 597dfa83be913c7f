import QueryGate.Regex.Ages
import QueryGate.Regex.Breaks
import QueryGate.Regex.Identifiers
import QueryGate.Regex.SharedScripts

/-! The names by which a pattern refers to properties of characters. -/
namespace QueryGate
namespace Regex

/-- Properties that a character has or has not. -/
def binaryTable : List (List String × CharSet) := [
  (["ahex", "asciihexdigit"], asciiHexDigits),
  (["alpha", "alphabetic"], alphabetic),
  (["bidic", "bidicontrol"], bidiControls),
  (["cased"], cased),
  (["ci", "caseignorable"], caseIgnorable),
  (["cwcf", "changeswhencasefolded"], changesWhenCasefolded),
  (["cwcm", "changeswhencasemapped"], changesWhenCasemapped),
  (["cwl", "changeswhenlowercased"], changesWhenLowercased),
  (["cwt", "changeswhentitlecased"], changesWhenTitlecased),
  (["cwu", "changeswhenuppercased"], changesWhenUppercased),
  (["dash"], dashes),
  (["dep", "deprecated"], deprecatedCharacters),
  (["di", "defaultignorablecodepoint"], ignorable),
  (["dia", "diacritic"], diacritics),
  (["ebase", "emojimodifierbase"], emojiModifierBases),
  (["ecomp", "emojicomponent"], emojiComponents),
  (["emod", "emojimodifier"], emojiModifiers),
  (["emoji"], emoji),
  (["epres", "emojipresentation"], emojiPresentation),
  (["ext", "extender"], extenders),
  (["extpict", "extendedpictographic"], pictographs),
  (["grbase", "graphemebase"], graphemeBase),
  (["grext", "graphemeextend"], graphemeExtend),
  (["grlink", "graphemelink"], graphemeLinks),
  (["hex", "hexdigit"], hexDigits),
  (["hyphen"], hyphens),
  (["idc", "idcontinue"], identifierContinue),
  (["idcompatmathcontinue"], mathIdentifierContinue),
  (["idcompatmathstart"], mathIdentifierStart),
  (["ideo", "ideographic"], ideographs),
  (["ids", "idstart"], identifierStart),
  (["idsb", "idsbinaryoperator"], binaryDescriptions),
  (["idst", "idstrinaryoperator"], ternaryDescriptions),
  (["idsu", "idsunaryoperator"], unaryDescriptions),
  (["joinc", "joincontrol"], joinControls),
  (["loe", "logicalorderexception"], visuallyOrdered),
  (["lower", "lowercase"], lowercase),
  (["math"], mathCharacters),
  (["mcm", "modifiercombiningmark"], modifierMarks),
  (["nchar", "noncharactercodepoint"], noncharacters),
  (["oalpha", "otheralphabetic"], otherAlphabetic),
  (["odi", "otherdefaultignorablecodepoint"], otherIgnorable),
  (["ogrext", "othergraphemeextend"], otherGraphemeExtend),
  (["oidc", "otheridcontinue"], otherIdentifierContinue),
  (["oids", "otheridstart"], otherIdentifierStart),
  (["olower", "otherlowercase"], otherLowercase),
  (["omath", "othermath"], otherMath),
  (["oupper", "otheruppercase"], otherUppercase),
  (["patsyn", "patternsyntax"], patternSyntax),
  (["patws", "patternwhitespace"], patternBlanks),
  (["pcm", "prependedconcatenationmark"], prependedMarks),
  (["qmark", "quotationmark"], quotationMarks),
  (["radical"], radicals),
  (["ri", "regionalindicator"], regionalIndicators),
  (["sd", "softdotted"], softDotted),
  (["sterm", "sentenceterminal"], sentenceTerminals),
  (["term", "terminalpunctuation"], terminalPunctuation),
  (["uideo", "unifiedideograph"], unifiedIdeographs),
  (["upper", "uppercase"], uppercase),
  (["vs", "variationselector"], variationSelectors),
  (["wspace", "whitespace", "space"], blankCharacters),
  (["xidc", "xidcontinue"], stableIdentifierContinue),
  (["xids", "xidstart"], stableIdentifierStart)]

/-- A script with everything that it shares. -/
def extendedScript? (name : String) : Option CharSet :=
  (scriptTable.find? fun row => row.1.contains name).map fun row => extended row.1 row.2

namespace Property

def isSeparator (c : Char) : Bool := c == ' ' || c == '_' || c == '-'

/-- Names are compared without case, separators and characters outside ASCII, and without `is` in front. -/
def normalize (cs : List Char) : String :=
  let fold (cs : List Char) : List Char :=
    (cs.filter fun c => !isSeparator c && decide (c.toNat ≤ 0x7F)).map Char.toLower
  match cs with
  | a :: b :: rest =>
    if (a = 'i' ∨ a = 'I') ∧ (b = 's' ∨ b = 'S') then
      if fold rest = ['c'] then "isc" else String.ofList (fold rest)
    else String.ofList (fold (a :: b :: rest))
  | _ => String.ofList (fold cs)

/-- The characters with the property, the general category or the script of a name. -/
def named? (name : List Char) : Option CharSet :=
  let key := normalize name
  CharSet.find? key binaryTable <|> CharSet.find? key categoryTable <|> CharSet.find? key scriptTable

/-- The characters for which a many-valued property has a given value. -/
def valued? (name value : List Char) : Option CharSet :=
  let value := normalize value
  match normalize name with
  | "gc" | "generalcategory" => CharSet.find? value categoryTable
  | "sc" | "script" => CharSet.find? value scriptTable
  | "scx" | "scriptextensions" => extendedScript? value
  | "age" => assignedAsOf? value ageTable
  | "gcb" | "graphemeclusterbreak" => CharSet.find? value clusterTable
  | "wb" | "wordbreak" => CharSet.find? value wordTable
  | "sb" | "sentencebreak" => CharSet.find? value sentenceTable
  | _ => none

end Property
end Regex
end QueryGate
