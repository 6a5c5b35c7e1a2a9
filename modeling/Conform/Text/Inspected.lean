import Conform.Text.CharacterClass

/-!
# Text shown for inspection

A text between double quotes in which everything that a reader could not see or tell apart is
escaped: quotes and backslashes, the common control characters by their letter, and invisible or
combining characters by their code.

## Main definitions

- `Inspected.escape` — how one character is shown
- `Inspected.quote` — a text in quotes
-/

namespace Conform.Inspected

/-- A code point in lower-case hexadecimal digits between braces. -/
def codeEscape (c : Char) : List Char :=
  ['\\', 'u', '\x7b'] ++ Nat.toDigits 16 c.toNat ++ ['\x7d']

/-- How one character is shown between double quotes. -/
def escape (c : Char) : List Char :=
  if c = '\x00' then ['\\', '0']
  else if c = '\t' then ['\\', 't']
  else if c = '\r' then ['\\', 'r']
  else if c = '\n' then ['\\', 'n']
  else if c = '"' then ['\\', '"']
  else if c = '\\' then ['\\', '\\']
  else if CharacterClass.isCombining c || CharacterClass.isInvisible c then codeEscape c
  else [c]

/-- A text in quotes. -/
def quote (s : String) : String :=
  String.ofList ('"' :: (s.toList.flatMap escape ++ ['"']))

end Conform.Inspected
