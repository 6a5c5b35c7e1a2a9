import Conform.Text.CharacterClass
import Conform.Text.Regex.Error

/-!
# Scanning regular expressions

The steps in which a written regular expression is taken apart: looking at the next character,
taking it, and complaining about a stretch of the text. Where a flag says so, blanks and comments
between the parts are passed over.

## Main definitions

- `Regex.ScanState` — what is left to read
- `Regex.Scan` — a reading of a part of a written regular expression
-/

namespace Conform.Regex

/-- What is left of a written regular expression. -/
structure ScanState where
  /-- The characters that have not been taken. -/
  rest : List Char
  /-- How many characters have been taken. -/
  taken : Nat := 0
  /-- Whether blanks and comments say nothing. -/
  isSpaced : Bool := false
  /-- The names of groups so far. -/
  names : List (String × Span) := []

/-- A reading of a part of a written regular expression. -/
abbrev Scan := StateT ScanState (Except ReadError)

namespace Scan

variable {α : Type}

/-- Complains about a stretch of the text. -/
def stop (fault : ReadFault) (span : Span) : Scan α := throw ⟨fault, span, none⟩

/-- The place reached. -/
def position : Scan Nat := return (← get).taken

/-- The next character, if there is one. -/
def peek : Scan (Option Char) := return (← get).rest.head?

/-- Whether nothing is left. -/
def atEnd : Scan Bool := return (← get).rest.isEmpty

/-- How many steps a reading of what is left can need. -/
def fuel : Scan Nat := return 2 * (← get).rest.length + 2

/-- Complains about the place reached. -/
def stopHere (fault : ReadFault) : Scan α := do stop fault ⟨← position, ← position⟩

/-- Complains about the next character. -/
def stopNext (fault : ReadFault) : Scan α := do stop fault ⟨← position, (← position) + 1⟩

/-- Complains about what has been taken from a place on. -/
def stopFrom (fault : ReadFault) (start : Nat) : Scan α := do stop fault ⟨start, ← position⟩

/-- Takes the next character, if there is one. -/
def take : Scan Unit := modify fun s =>
  match s.rest with
  | [] => s
  | _ :: rest => { s with rest, taken := s.taken + 1 }

/-- Takes the given characters if they come next, and answers whether they do. -/
def takeIf (text : String) : Scan Bool := do
  let s ← get
  if text.toList.isPrefixOf s.rest then
    set { s with rest := s.rest.drop text.length, taken := s.taken + text.length }
    return true
  else return false

/-- What is left after blanks and comments. A comment ends with its line. -/
def pastBlanks (inComment : Bool) : List Char → List Char
  | [] => []
  | c :: cs =>
    if inComment then pastBlanks (c ≠ '\n') cs
    else if CharacterClass.isBlank c then pastBlanks false cs
    else if c = '#' then pastBlanks true cs
    else c :: cs

/-- Passes over blanks and comments, if they say nothing. -/
def skipBlanks : Scan Unit := modify fun s =>
  if s.isSpaced then
    let rest := pastBlanks false s.rest
    { s with rest, taken := s.taken + (s.rest.length - rest.length) }
  else s

/-- Takes the next character and the blanks after it, and answers whether anything is left. -/
def advance : Scan Bool := do
  take
  skipBlanks
  return !(← atEnd)

/-- What is left after blanks, the sign of a comment and the blanks after it. -/
def pastMargin (cs : List Char) : List Char :=
  match cs.dropWhile CharacterClass.isBlank with
  | '#' :: rest => rest.dropWhile CharacterClass.isBlank
  | rest => rest

/-- The character that comes after the next one. Where blanks and comments say nothing it is the one
    after a margin, if there is one. -/
def peekPastMargin : Scan (Option Char) := do
  let s ← get
  let rest := s.rest.drop 1
  return if s.isSpaced then (pastMargin rest).head?.or rest.head? else rest.head?

end Scan

end Conform.Regex
