/-!
# Quoted text

Text between double quotes as JSON writes it: quotes, backslashes and control characters are
escaped, everything else stands for itself.

## Main definitions

- `Quoted.escape` — how one character is written between quotes
- `Quoted.quote` — a text in quotes
-/

namespace Conform.Quoted

/-- A lower-case hexadecimal digit. -/
def hexDigit (n : Nat) : Char := Nat.digitChar (n % 16)

/-- The escape of a character that has none of its own: its code in four hexadecimal digits. -/
def codeEscape (c : Char) : List Char :=
  ['\\', 'u', hexDigit (c.toNat / 4096), hexDigit (c.toNat / 256), hexDigit (c.toNat / 16),
    hexDigit c.toNat]

/-- How one character is written between quotes. -/
def escape (c : Char) : List Char :=
  if c = '"' then ['\\', '"']
  else if c = '\\' then ['\\', '\\']
  else if c = '\x08' then ['\\', 'b']
  else if c = '\x0c' then ['\\', 'f']
  else if c = '\n' then ['\\', 'n']
  else if c = '\r' then ['\\', 'r']
  else if c = '\t' then ['\\', 't']
  else if c.toNat < 32 then codeEscape c
  else [c]

/-- A text in quotes. -/
def quote (s : String) : String :=
  String.ofList ('"' :: (s.toList.flatMap escape ++ ['"']))

end Conform.Quoted
