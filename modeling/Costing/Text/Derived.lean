import Costing.Text.Category
import Costing.Text.Property

/-!
# Text — Derived

The characters of every property: some are listed, the others follow from general categories and from
listed properties.
-/

namespace Costing.Text

namespace Derived

open Property (listed)

/-- The characters of the categories that satisfy a test, and those of a listed property. -/
def withListed (p : Category → Bool) (property : Property) : CharSet :=
  (Category.set p).union (listed property)

/-- Characters in lower case. -/
def lowercase : CharSet :=
  withListed (· == .lowercaseLetter) .otherLowercase

/-- Characters in upper case. -/
def uppercase : CharSet :=
  withListed (· == .uppercaseLetter) .otherUppercase

/-- Characters that have a case. -/
def cased : CharSet :=
  .unions [lowercase, uppercase, Category.set (· == .titlecaseLetter)]

/-- Characters that words are written with. -/
def alphabetic : CharSet :=
  .unions [lowercase, uppercase, withListed (fun c => c.isLetter || c == .letterNumber)
    .otherAlphabetic]

/-- Characters of mathematics. -/
def math : CharSet :=
  withListed (· == .mathSymbol) .otherMath

/-- Characters that extend the one before them. -/
def graphemeExtend : CharSet :=
  withListed (fun c => c == .enclosingMark || c == .nonspacingMark) .otherGraphemeExtend

/-- Characters that stand on their own. -/
def graphemeBase : CharSet :=
  (CharSet.union (Category.set fun c => c.isOther || c == .lineSeparator || c == .paragraphSeparator)
    graphemeExtend).complement

/-- Characters that patterns of programs give a meaning of their own. -/
def pattern : CharSet :=
  (listed .patternSyntax).union (listed .patternWhiteSpace)

/-- Characters that identifiers start with. -/
def idStart : CharSet :=
  (withListed (fun c => c.isLetter || c == .letterNumber) .otherIdStart).diff pattern

/-- Characters that identifiers go on with. -/
def idContinue : CharSet :=
  (CharSet.unions
    [idStart, Category.set fun c =>
      c == .nonspacingMark || c == .spacingMark || c == .decimalNumber || c == .connectorPunctuation,
      listed .otherIdContinue]).diff pattern

/-- Characters whose normal form is of another kind, where identifiers go on. -/
def unstable : CharSet :=
  .ofTable ["37a 309b-309c fc5e-fc63 fdfa-fdfb fe70-fe7e/2"]

/-- Characters whose normal form is of another kind, where identifiers start. -/
def unstableStart : CharSet :=
  unstable.union (.ofTable ["e33 eb3 ff9e-ff9f"])

/-- Marks that case ignores within words. -/
def withinWords : CharSet :=
  .ofTable
    ["27 2e 3a b7 387 55f 5f4 2018-2019 2024 2027 fe13 fe52 fe55 ff07 ff0e ff1a"]

/-- Characters that the case of a word does not depend on. -/
def caseIgnorable : CharSet :=
  withinWords.union <| Category.set fun c =>
    c == .nonspacingMark || c == .enclosingMark || c == .format || c == .modifierLetter ||
      c == .modifierSymbol

/-- Characters that are shown as nothing where they are not supported. -/
def defaultIgnorable : CharSet :=
  (CharSet.unions
    [withListed (· == .format) .otherDefaultIgnorableCodePoint, listed .variationSelector]).diff <|
      .unions [listed .whiteSpace, listed .prependedConcatenationMark,
        .ofTable ["fff9-fffb 13430-13440"]]

end Derived

/-- The characters that have a property. -/
def Property.set : Property → CharSet
  | .alphabetic => Derived.alphabetic
  | .caseIgnorable => Derived.caseIgnorable
  | .cased => Derived.cased
  | .changesWhenCasemapped =>
    .unions [listed .changesWhenLowercased, listed .changesWhenTitlecased,
      listed .changesWhenUppercased]
  | .defaultIgnorableCodePoint => Derived.defaultIgnorable
  | .graphemeBase => Derived.graphemeBase
  | .graphemeExtend => Derived.graphemeExtend
  | .idContinue => Derived.idContinue
  | .idStart => Derived.idStart
  | .lowercase => Derived.lowercase
  | .math => Derived.math
  | .uppercase => Derived.uppercase
  | .xidContinue => Derived.idContinue.diff Derived.unstable
  | .xidStart => Derived.idStart.diff Derived.unstableStart
  | p => p.listed

/-- The characters of the property that a name stands for. -/
def Property.named? (name : String) : Option CharSet :=
  (lookupNamed? byNames name).map set

end Costing.Text
