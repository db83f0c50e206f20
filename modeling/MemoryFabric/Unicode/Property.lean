import MemoryFabric.Unicode.Category
import MemoryFabric.Unicode.ListedProperty

/-!
# Properties of characters

The properties that characters have or lack.  Some are given by lists; the others are defined by the categories
together with such lists.
-/

namespace MemoryFabric

set_option autoImplicit false

/-- A property that characters have or lack. -/
inductive CharacterProperty where
  | listed (property : ListedProperty)
  | alphabetic
  | caseIgnorable
  | cased
  | defaultIgnorable
  | graphemeBase
  | graphemeExtend
  | idContinue
  | idStart
  | lowercase
  | math
  | uppercase
  | xidContinue
  | xidStart
  deriving DecidableEq, Repr

namespace CharacterProperty

open CharacterSet (ofText unions)

/-- The characters of several categories and of a listed property. -/
def categoriesWith (categories : List Category) (property : ListedProperty) : CharacterSet :=
  (Category.setOf categories).union property.set

/-- Small letters. -/
def lowercaseSet : CharacterSet := categoriesWith [.lowercaseLetter] .otherLowercase

/-- Capital letters. -/
def uppercaseSet : CharacterSet := categoriesWith [.uppercaseLetter] .otherUppercase

/-- Letters that are large or small. -/
def casedSet : CharacterSet :=
  unions [lowercaseSet, uppercaseSet, Category.titlecaseLetter.set]

/-- What letters are made of, with the marks that belong to them. -/
def alphabeticSet : CharacterSet :=
  unions [casedSet, Category.setOf (.letterNumber :: Category.letter),
    ListedProperty.otherAlphabetic.set]

/-- What does not count when the neighbours of a letter are looked at; some punctuation is among it. -/
def caseIgnorableSet : CharacterSet :=
  (Category.setOf [.nonspacingMark, .enclosingMark, .format, .modifierLetter, .modifierSymbol]).union
    (ofText "27 2e 3a b7 387 55f 5f4 2018-2019 2024 2027 fe13 fe52 fe55 ff07 ff0e ff1a")

/-- What is not shown when it is not known. -/
def defaultIgnorableSet : CharacterSet :=
  (unions [ListedProperty.otherDefaultIgnorable.set, Category.format.set,
      ListedProperty.variationSelector.set]).difference
    ((ofText "fff9-fffb 13430-13440").union ListedProperty.prependedConcatenationMark.set)

/-- What extends the character in front of it. -/
def graphemeExtendSet : CharacterSet :=
  categoriesWith [.nonspacingMark, .enclosingMark] .otherGraphemeExtend

/-- What stands by itself. -/
def graphemeBaseSet : CharacterSet :=
  ((Category.setOf (.lineSeparator :: .paragraphSeparator :: Category.other)).union
    graphemeExtendSet).complement

/-- What no identifier has. -/
def outsideIdSet : CharacterSet :=
  ListedProperty.patternSyntax.set.union ListedProperty.patternWhiteSpace.set

/-- What an identifier can begin with. -/
def idStartSet : CharacterSet :=
  (categoriesWith (.letterNumber :: Category.letter) .otherIdStart).difference outsideIdSet

/-- What an identifier can go on with. -/
def idContinueSet : CharacterSet :=
  idStartSet.union <|
    (categoriesWith [.nonspacingMark, .spacingMark, .decimalNumber, .connectorPunctuation]
      .otherIdContinue).difference outsideIdSet

/-- What an identifier could no longer go on with if it were normalized. -/
def unstableSet : CharacterSet := ofText "37a 309b-309c fc5e-fc63 fdfa-fdfb fe70:fe7e"

/-- The characters that have a property. -/
def set : CharacterProperty → CharacterSet
  | .listed property => property.set
  | .alphabetic => alphabeticSet
  | .caseIgnorable => caseIgnorableSet
  | .cased => casedSet
  | .defaultIgnorable => defaultIgnorableSet
  | .graphemeBase => graphemeBaseSet
  | .graphemeExtend => graphemeExtendSet
  | .idContinue => idContinueSet
  | .idStart => idStartSet
  | .lowercase => lowercaseSet
  | .math => categoriesWith [.mathSymbol] .otherMath
  | .uppercase => uppercaseSet
  | .xidContinue => idContinueSet.difference unstableSet
  | .xidStart => idStartSet.difference (unstableSet.union (ofText "e33 eb3 ff9e-ff9f"))

/-- The property of a name; names are in small letters, without gaps. -/
def named? : String → Option CharacterProperty
  | "alphabetic" | "alpha" => some .alphabetic
  | "caseignorable" | "ci" => some .caseIgnorable
  | "cased" => some .cased
  | "defaultignorablecodepoint" | "di" => some .defaultIgnorable
  | "graphemebase" | "grbase" => some .graphemeBase
  | "graphemeextend" | "grext" => some .graphemeExtend
  | "idcontinue" | "idc" => some .idContinue
  | "idstart" | "ids" => some .idStart
  | "lowercase" | "lower" => some .lowercase
  | "math" => some .math
  | "uppercase" | "upper" => some .uppercase
  | "xidcontinue" | "xidc" => some .xidContinue
  | "xidstart" | "xids" => some .xidStart
  | name => (ListedProperty.named? name).map .listed

end CharacterProperty

end MemoryFabric
