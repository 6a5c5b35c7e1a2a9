import Conform.Text.Unicode.Casing
import Conform.Text.Unicode.Category
import Conform.Text.Unicode.Listed

/-!
# Derived properties

Properties that follow from the general category of a character, with a list of those that have the
property besides.

## Main definitions

- `Unicode.alphabetic`, `Unicode.lowercase`, `Unicode.uppercase` — letters
- `Unicode.graphemeExtend` — what extends the character before it
- `Unicode.wordParts` — what words are made of
-/

namespace Conform.Unicode

/-- Blanks and line ends. -/
def whiteSpace : CharSet := .ofAscending [(0x9, 0xD), (0x20, 0x20), (0x85, 0x85), (0xA0, 0xA0),
  (0x1680, 0x1680), (0x2000, 0x200A), (0x2028, 0x2029), (0x202F, 0x202F), (0x205F, 0x205F),
  (0x3000, 0x3000)]

/-- Small letters. -/
def lowercase (e : Edition) : CharSet :=
  (Category.set e "Ll").union (e.restrict Listed.otherLowercase)

/-- Capital letters. -/
def uppercase (e : Edition) : CharSet :=
  (Category.set e "Lu").union (e.restrict Listed.otherUppercase)

/-- Letters that have a case. -/
def cased (e : Edition) : CharSet :=
  .unions [lowercase e, uppercase e, Category.set e "Lt"]

/-- Letters and signs that take part in spelling. -/
def alphabetic (e : Edition) : CharSet :=
  .unions [lowercase e, uppercase e, Category.sets e ["Lt", "Lm", "Lo", "Nl"],
    e.restrict Listed.otherAlphabetic]

/-- Characters of formulas. -/
def math (e : Edition) : CharSet := (Category.set e "Sm").union (e.restrict Listed.otherMath)

/-- Characters that extend the one before them. -/
def graphemeExtend (e : Edition) : CharSet :=
  (Category.sets e ["Mn", "Me"]).union (e.restrict Listed.otherGraphemeExtend)

/-- Characters that are seen and do not extend the one before them. -/
def graphemeBase (e : Edition) : CharSet :=
  ((Category.sets e ["C", "Zl", "Zp"]).union (graphemeExtend e)).complement

/-- Characters with a meaning in patterns. -/
def patternReserved : CharSet := Listed.patternSyntax.union Listed.patternWhiteSpace

/-- Characters that may start an identifier. -/
def idStart (e : Edition) : CharSet :=
  ((Category.sets e ["L", "Nl"]).union Listed.otherIdStart).without patternReserved

/-- Characters that may be in an identifier. -/
def idContinue (e : Edition) : CharSet :=
  (CharSet.unions [idStart e, Category.sets e ["Mn", "Mc", "Nd", "Pc"],
    Listed.otherIdContinue]).without patternReserved

/-- Characters that some normal form takes apart so that an identifier could not have them. -/
def unstableInIds : CharSet :=
  setOf ["37A 309B-309C FC5E-FC63 FDFA-FDFB FE70 FE72 FE74 FE76 FE78 FE7A FE7C FE7E"]

/-- Characters that may start an identifier in every normal form. -/
def xidStart (e : Edition) : CharSet :=
  (idStart e).without (unstableInIds.union (setOf ["E33 EB3 FF9E-FF9F"]))

/-- Characters that may be in an identifier in every normal form. -/
def xidContinue (e : Edition) : CharSet := (idContinue e).without unstableInIds

/-- Characters that do not count when the case of a letter depends on those around it. -/
def caseIgnorable (e : Edition) : CharSet :=
  (Category.sets e ["Mn", "Me", "Cf", "Lm", "Sk"]).union
    (setOf ["27 2E 3A B7 387 55F 5F4 2018-2019 2024 2027 FE13 FE52 FE55 FF07 FF0E FF1A"])

/-- Characters that are not shown if a font lacks them. -/
def defaultIgnorable (e : Edition) : CharSet :=
  ((((Category.set e "Cf").union Listed.variationSelector).without whiteSpace).without
    ((setOf ["FFF9-FFFB 13430-1343F"]).union Listed.prependedConcatenationMark)).union
    Listed.otherDefaultIgnorable

/-- Characters that another stands for in small letters. -/
def changesLowercased (e : Edition) : CharSet :=
  ((uppercase e).union (Category.set e "Lt")).without Casing.withoutSmallForm

/-- Letters whose capital forms came after an edition. -/
def capitalLater : Edition → CharSet
  | .v16 => setOf ["A7D3 A7D5"]
  | .v17 => .empty

/-- Characters that another stands for in capital letters. -/
def changesUppercased (e : Edition) : CharSet :=
  ((lowercase e).union (Category.set e "Lt")).without
    (Casing.withoutCapitalForm.union (capitalLater e))

/-- Characters that another stands for at the start of a title. -/
def changesTitlecased (e : Edition) : CharSet :=
  ((changesUppercased e).without Casing.ownTitleForm).union Casing.otherTitleForm

/-- Characters that fold to another. -/
def changesFolded (e : Edition) : CharSet :=
  ((changesLowercased e).without Casing.foldedAsCapitals).union Casing.foldedSmallLetters

/-- Characters that have a form in another case. -/
def changesCase (e : Edition) : CharSet :=
  .unions [changesLowercased e, changesUppercased e, changesTitlecased e]

/-- Pictographs. -/
def pictographic : Edition → CharSet
  | .v16 => Listed.pictographic16
  | .v17 => Listed.pictographic17

/-- What words are made of: letters, marks, digits, connectors and joiners. -/
def wordParts (e : Edition) : CharSet :=
  .unions [alphabetic e, Category.sets e ["M", "Nd", "Pc"], Listed.joinControl]

end Conform.Unicode
