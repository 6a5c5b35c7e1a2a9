import Conform.Text.Unicode.Derived

/-!
# Character classes

The questions that the rest of the library asks about single characters, which are answered for
ASCII characters without a look at the tables of the character set.

## Main definitions

- `CharacterClass.isBlank` — blanks and line ends
- `CharacterClass.isAlphabetic`, `CharacterClass.isAlphanumeric` — letters, letters and numbers
- `CharacterClass.isCombining` — marks that are drawn together with the character before them
- `CharacterClass.isInvisible` — characters without a glyph of their own
-/

namespace Conform.CharacterClass

/-- The edition of the character set that is meant. -/
def edition : Unicode.Edition := .v17

/-- Whether a character is in a set; for an ASCII character the answer is given. -/
def isIn (s : CharSet) (ascii : Bool) (c : Char) : Bool :=
  if c.toNat < 128 then ascii else s.contains c

/-- Whether a character is a blank or ends a line. -/
def isBlank (c : Char) : Bool := Unicode.whiteSpace.contains c

/-- Letters and signs that take part in spelling. -/
def letters : CharSet := Unicode.alphabetic edition

/-- Digits and other numbers. -/
def numbers : CharSet := Unicode.Category.set edition "N"

/-- Letters and numbers. -/
def lettersAndNumbers : CharSet := letters.union numbers

/-- Marks that are drawn together with the character before them. Two marks that have a width of
    their own are not among them. -/
def combining : CharSet := (Unicode.graphemeExtend edition).without (.range 0xFF9E 0xFF9F)

/-- Letters that fill a place without being seen. -/
def fillers : CharSet := .ofAscending [(0x115F, 0x1160), (0x3164, 0x3164), (0xFFA0, 0xFFA0)]

/-- Characters without a glyph: controls, separators, private and unused code points, fillers. -/
def invisible : CharSet := (Unicode.Category.sets edition ["C", "Z"]).union fillers

/-- Whether a character is a letter or takes part in spelling. -/
def isAlphabetic (c : Char) : Bool := isIn letters c.isAlpha c

/-- Whether a character is a letter or a number. -/
def isAlphanumeric (c : Char) : Bool := isIn lettersAndNumbers c.isAlphanum c

/-- Whether a character combines with the one before it. -/
def isCombining (c : Char) : Bool := isIn combining false c

/-- Whether a character has no glyph of its own. A space counts as if it had one. -/
def isInvisible (c : Char) : Bool :=
  isIn invisible (decide (c.toNat < 0x20) || decide (c.toNat = 0x7F)) c

end Conform.CharacterClass
