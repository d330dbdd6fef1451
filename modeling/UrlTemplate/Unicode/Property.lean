import UrlTemplate.Unicode.Blank
import UrlTemplate.Unicode.Category
import UrlTemplate.Unicode.PropertyRanges
import UrlTemplate.Unicode.Scripts

/-! # Properties of characters

A property is a set of characters. Properties, general categories and scripts
can be looked up by name; case, spaces, hyphens and underscores of a name do
not count, and neither does `is` at its start.
-/

namespace UrlTemplate.Unicode

open Category

/-- The character is in a table. -/
def inTable (ranges : List (Nat × Nat)) (c : Char) : Bool := inRanges ranges c.toNat

/-- A letter, or a character that is used like one. -/
def isAlphabetic (c : Char) : Bool :=
  hasCategory (letterNumber :: letters) c || inTable otherAlphabetic c

def isUppercase (c : Char) : Bool := uppercaseLetter.has c || inTable otherUppercase c

def isLowercase (c : Char) : Bool := lowercaseLetter.has c || inTable otherLowercase c

def isCased (c : Char) : Bool := isUppercase c || isLowercase c || titlecaseLetter.has c

/-- A character that casing passes over. -/
def isCaseIgnorable (c : Char) : Bool :=
  hasCategory [nonspacingMark, enclosingMark, format, modifierLetter, modifierSymbol] c ||
    inTable otherCaseIgnorable c

def isMath (c : Char) : Bool := mathSymbol.has c || inTable otherMath c

/-- A character that extends the one before it. -/
def isGraphemeExtend (c : Char) : Bool :=
  hasCategory [nonspacingMark, enclosingMark] c || inTable otherGraphemeExtend c

/-- A character that can stand by itself. -/
def isGraphemeBase (c : Char) : Bool :=
  hasCategory
    (letters ++ spacingMark :: numbers ++ punctuation ++ symbols ++ [spaceSeparator]) c &&
    !isGraphemeExtend c

def isIdStart (c : Char) : Bool :=
  (hasCategory (letterNumber :: letters) c || inTable otherIdStart c) && !inTable patternSyntax c

def isIdContinue (c : Char) : Bool :=
  isIdStart c || inTable otherIdContinue c ||
    hasCategory [nonspacingMark, spacingMark, decimalNumber, connectorPunctuation] c

/-- A character that can start an identifier, also after normalization. -/
def isXidStart (c : Char) : Bool := isIdStart c && !inTable idNotXidStart c

/-- A character that can continue an identifier, also after normalization. -/
def isXidContinue (c : Char) : Bool := isIdContinue c && !inTable idNotXidContinue c

/-- A character of words: a letter or what is used like one, a mark, a digit, or
a character that joins words. -/
def isWord (c : Char) : Bool :=
  isAlphabetic c || hasCategory (decimalNumber :: connectorPunctuation :: marks) c ||
    inTable joinControls c

/-- A letter, what is used like one, or a number. -/
def isAlphanumeric (c : Char) : Bool := isAlphabetic c || hasCategory numbers c

/-- The properties, under their names in lower case. -/
def properties : List (List String × (Char → Bool)) := [
  (["alphabetic", "alpha"], isAlphabetic),
  (["caseignorable", "ci"], isCaseIgnorable),
  (["cased"], isCased),
  (["graphemebase", "grbase"], isGraphemeBase),
  (["graphemeextend", "grext"], isGraphemeExtend),
  (["idcontinue", "idc"], isIdContinue),
  (["idstart", "ids"], isIdStart),
  (["lowercase", "lower"], isLowercase),
  (["math"], isMath),
  (["uppercase", "upper"], isUppercase),
  (["whitespace", "wspace", "space"], isBlank),
  (["xidcontinue", "xidc"], isXidContinue),
  (["xidstart", "xids"], isXidStart),
  (["asciihexdigit", "ahex"], inTable asciiHexDigits),
  (["bidicontrol", "bidic"], inTable bidiControls),
  (["bidimirrored", "bidim"], inTable bidiMirrored),
  (["dash"], inTable dashes),
  (["defaultignorablecodepoint", "di"], inTable defaultIgnorables),
  (["deprecated", "dep"], inTable deprecated),
  (["diacritic", "dia"], inTable diacritics),
  (["emoji"], inTable emoji),
  (["emojicomponent", "ecomp"], inTable emojiComponents),
  (["emojimodifier", "emod"], inTable emojiModifiers),
  (["emojimodifierbase", "ebase"], inTable emojiModifierBases),
  (["emojipresentation", "epres"], inTable emojiPresentation),
  (["extendedpictographic", "extpict"], inTable extendedPictographic),
  (["extender", "ext"], inTable extenders),
  (["hexdigit", "hex"], inTable hexDigits),
  (["idsbinaryoperator", "idsb"], inTable idsBinaryOperators),
  (["idstrinaryoperator", "idst"], inTable idsTrinaryOperators),
  (["ideographic", "ideo"], inTable ideographic),
  (["joincontrol", "joinc"], inTable joinControls),
  (["logicalorderexception", "loe"], inTable logicalOrderExceptions),
  (["noncharactercodepoint", "nchar"], inTable noncharacters),
  (["patternsyntax", "patsyn"], inTable patternSyntax),
  (["patternwhitespace", "patws"], inTable patternWhiteSpace),
  (["quotationmark", "qmark"], inTable quotationMarks),
  (["radical"], inTable radicals),
  (["regionalindicator", "ri"], inTable regionalIndicators),
  (["sentenceterminal", "sterm"], inTable sentenceTerminals),
  (["softdotted", "sd"], inTable softDotted),
  (["terminalpunctuation", "term"], inTable terminalPunctuation),
  (["unifiedideograph", "uideo"], inTable unifiedIdeographs),
  (["variationselector", "vs"], inTable variationSelectors)]

/-- The characters of a name that count, in lower case. -/
def significant (name : List Char) : List Char :=
  (name.filter fun c => c ≠ ' ' && c ≠ '_' && c ≠ '-' && c.toNat ≤ 0x7f).map Char.toLower

/-- Drops what does not count in a name. The name `isc` stays whole: it does not
mean the category `c`. -/
def looseName (name : String) : String :=
  String.ofList <| match name.toList with
    | i :: s :: rest =>
      let short := significant rest
      if (i = 'i' || i = 'I') && (s = 's' || s = 'S') && short ≠ ['c'] then short
      else significant (i :: s :: rest)
    | cs => significant cs

/-- The entry of a table under a name. -/
def underName? {α : Type} (table : List (List String × α)) (name : String) : Option α :=
  (table.find? (·.1.contains name)).map (·.2)

/-- The characters whose general category has this name. -/
def categoryNamed? (name : String) : Option (Char → Bool) :=
  match looseName name with
  | "any" => some fun _ => true
  | "assigned" => some isAssigned
  | "ascii" => some (·.toNat ≤ 0x7f)
  | "cn" | "unassigned" => some (!isAssigned ·)
  | "c" | "other" => some fun c => hasCategory invisible c || !isAssigned c
  | name => (underName? Category.named name).map hasCategory

/-- The characters whose script has this name. -/
def scriptNamed? (name : String) : Option (Char → Bool) :=
  (underName? scripts (looseName name)).map inTable

/-- The characters with the property, category or script of this name. -/
def setNamed? (name : String) : Option (Char → Bool) :=
  (underName? properties (looseName name)) <|> categoryNamed? name <|> scriptNamed? name

/-- The characters for which the property of this name has this value. -/
def valueNamed? (property value : String) : Option (Char → Bool) :=
  match looseName property with
  | "gc" | "generalcategory" => categoryNamed? value
  | "sc" | "script" => scriptNamed? value
  | _ => none

end UrlTemplate.Unicode
