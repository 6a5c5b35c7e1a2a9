/-!
# Glob patterns

In a glob pattern `?` stands for one character, `*` for any characters, brackets for one character
of a class, and `**` between slashes for any directories. Everything else stands for itself.

## Main definitions

- `Glob.Token` — a part of a pattern
- `Glob.Token.admits` — whether a token stands for a character
- `Glob.covers` — whether a row of tokens stands for a text
- `Glob.PatternError` — why a pattern cannot be read
- `Glob.tokens` — reads a pattern
-/

namespace Conform.Glob

/-- A range of characters, ends included. -/
structure CharRange where
  /-- The first character. -/
  first : Char
  /-- The last character. -/
  last : Char
deriving DecidableEq, Repr

/-- A part of a pattern. -/
inductive Token where
  /-- This character. -/
  | char (c : Char)
  /-- Any one character. -/
  | anyChar
  /-- A character of the ranges. -/
  | within (ranges : List CharRange)
  /-- A character outside the ranges. -/
  | except (ranges : List CharRange)
  /-- Any characters. -/
  | anyChars
  /-- Any directories. -/
  | anyDirectories
deriving DecidableEq, Repr

/-- Whether a character lies in some range. -/
def inRanges (c : Char) (ranges : List CharRange) : Bool :=
  ranges.any fun r => r.first ≤ c && c ≤ r.last

/-- Whether a token stands for a character. -/
def Token.admits (c : Char) : Token → Bool
  | char d => c == d
  | anyChar => true
  | within ranges => inRanges c ranges
  | except ranges => !inRanges c ranges
  | anyChars | anyDirectories => true

/-- Whether a token stands for any number of characters. -/
def Token.isOpen : Token → Bool
  | anyChars | anyDirectories => true
  | _ => false

/-- All ends of a text, the whole and the empty one included. -/
def ends : List Char → List (List Char)
  | [] => [[]]
  | c :: cs => (c :: cs) :: ends cs

/-- What may be left of a text after a token, if before it one of some ends of the text was left, of
    which the longest comes first. -/
def Token.leave (t : Token) (rests : List (List Char)) : List (List Char) :=
  if t.isOpen then
    match rests with
    | [] => []
    | longest :: _ => ends longest
  else rests.filterMap fun cs =>
    match cs with
    | [] => none
    | c :: cs => if t.admits c then some cs else none

/-- Whether a row of tokens stands for a text. -/
def covers (ts : List Token) (cs : List Char) : Bool :=
  (ts.foldl (fun rests t => t.leave rests) [cs]).any List.isEmpty

/-- Why a pattern cannot be read. -/
inductive PatternFault where
  /-- More than two asterisks in a row. -/
  | tooManyAsterisks
  /-- Two asterisks beside something other than a slash. -/
  | asterisksBesideText
  /-- A bracket that is not closed around a class. -/
  | badRange
deriving DecidableEq, Repr

/-- Why and where a pattern cannot be read. -/
structure PatternError where
  /-- The character at which the fault was noticed. -/
  position : Nat
  /-- What is wrong. -/
  fault : PatternFault
deriving DecidableEq, Repr

/-- What is wrong, as text. -/
def PatternFault.text : PatternFault → String
  | tooManyAsterisks => "wildcards are either regular `*` or recursive `**`"
  | asterisksBesideText => "recursive wildcards must form a single path component"
  | badRange => "invalid range pattern"

/-- The message of an error. -/
def PatternError.message (e : PatternError) : String :=
  "Pattern syntax error near position " ++ toString e.position ++ ": " ++ e.fault.text

/-- The ranges of a class: two characters around a dash, or one character. -/
def ranges : List Char → List CharRange
  | a :: '-' :: b :: rest => ⟨a, b⟩ :: ranges rest
  | a :: rest => ⟨a, a⟩ :: ranges rest
  | [] => []

/-- Reads a class after its opening bracket: the class, how many characters it takes up to its
    closing bracket, and what follows. The first character of a class does not close it, and an
    exclamation mark in front turns it into its opposite. -/
def readClass? : List Char → Option (Token × Nat × List Char)
  | '!' :: first :: rest => close .except first rest 3
  | '!' :: _ => none
  | first :: rest => close .within first rest 2
  | [] => none
where
  /-- Reads a class up to its closing bracket. -/
  close (token : List CharRange → Token) (first : Char) (rest : List Char) (size : Nat) :
      Option (Token × Nat × List Char) :=
    let inside := rest.takeWhile (· ≠ ']')
    match rest.drop inside.length with
    | [] => none
    | _ :: after => some (token (ranges (first :: inside)), size + inside.length, after)

/-- Reads a pattern from a position on, after the given character. The fuel bounds the tokens. -/
def readTokens : Nat → Nat → Option Char → List Char → Except PatternError (List Token)
  | 0, _, _, _ => .ok []
  | _, _, _, [] => .ok []
  | fuel + 1, position, before, c :: cs =>
    if c = '?' then (Token.anyChar :: ·) <$> readTokens fuel (position + 1) c cs
    else if c = '*' then
      let count := 1 + (cs.takeWhile (· == '*')).length
      let rest := cs.drop (count - 1)
      if count = 1 then (Token.anyChars :: ·) <$> readTokens fuel (position + 1) c cs
      else if 2 < count then .error ⟨position + 2, .tooManyAsterisks⟩
      else if before.any (· ≠ '/') then .error ⟨position - 1, .asterisksBesideText⟩
      else
        match rest with
        | [] => .ok [.anyDirectories]
        | d :: rest =>
          if d = '/' then (Token.anyDirectories :: ·) <$> readTokens fuel (position + 3) d rest
          else .error ⟨position + 2, .asterisksBesideText⟩
    else if c = '[' then
      match readClass? cs with
      | none => .error ⟨position, .badRange⟩
      | some (token, size, rest) =>
        (token :: ·) <$> readTokens fuel (position + 1 + size) ']' rest
    else (Token.char c :: ·) <$> readTokens fuel (position + 1) c cs

/-- The tokens of a pattern. -/
def tokens (pattern : String) : Except PatternError (List Token) :=
  readTokens pattern.toList.length 0 none pattern.toList

end Conform.Glob
