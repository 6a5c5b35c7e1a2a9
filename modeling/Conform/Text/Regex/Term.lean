import Conform.Text.Regex.Error
import Conform.Text.Regex.Basic
import Conform.Text.Unicode.Property

/-!
# Regular expressions as they are written

A written regular expression is a tree of parts, each with the stretch of the text that it takes up.
What a part means depends on the flags that hold where it stands. Parts may be nested to a certain
depth only.

## Main definitions

- `Regex.Term` — a part of a regular expression
- `Regex.SetTerm` — a part that stands for one character of a set
- `Regex.Term.tooDeep?` — the first part that is nested too deep
-/

namespace Conform.Regex

/-- A flag. -/
inductive Flag where
  /-- Letters stand for both cases. -/
  | caseless
  /-- The marks for start and end are about lines. -/
  | byLine
  /-- A dot stands for line ends too. -/
  | dotAll
  /-- Repetitions prefer fewer parts; this does not matter for whether a text matches. -/
  | reluctant
  /-- Characters of all scripts are meant. -/
  | wide
  /-- Lines may end in two characters. -/
  | pairedEnds
  /-- Blanks and comments say nothing. -/
  | spaced
deriving DecidableEq, Repr

/-- The flag that a letter names. -/
def Flag.ofLetter? (c : Char) : Option Flag :=
  match c with
  | 'i' => some caseless
  | 'm' => some byLine
  | 's' => some dotAll
  | 'U' => some reluctant
  | 'u' => some wide
  | 'R' => some pairedEnds
  | 'x' => some spaced
  | _ => none

/-- Flags, each set or taken away. -/
abbrev FlagChanges := List (Flag × Bool)

/-- A character as it is written. -/
structure Literal where
  /-- Where it is written. -/
  span : Span
  /-- The character. -/
  char : Char
  /-- Whether it is given by two hexadecimal digits, which may mean a byte. -/
  isByte : Bool := false
deriving DecidableEq, Repr

/-- A class of characters that has a name. -/
inductive NamedClass where
  /-- Decimal digits. -/
  | digits
  /-- Blanks and line ends. -/
  | blanks
  /-- What words are made of. -/
  | wordParts
  /-- Some ASCII characters. -/
  | ascii (s : CharSet)
  /-- The characters with a property. -/
  | property (query : Unicode.PropertyQuery)
deriving DecidableEq, Repr

/-- An operation on two sets. -/
inductive SetOperation where
  | intersection | subtraction | symmetricDifference
deriving DecidableEq, Repr

/-- A part that stands for one character of a set. -/
inductive SetTerm where
  /-- No character. -/
  | nothing (span : Span)
  /-- One character. -/
  | char (l : Literal)
  /-- The characters from one to another. -/
  | range (low high : Literal)
  /-- The characters of a class, or those that are not in it. -/
  | named (span : Span) (isNegated : Bool) (c : NamedClass)
  /-- What stands between brackets, or its complement. -/
  | bracketed (span : Span) (isNegated : Bool) (inside : SetTerm)
  /-- The characters of any of several sets. -/
  | union (span : Span) (items : List SetTerm)
  /-- What an operation makes of two sets. -/
  | operation (span : Span) (op : SetOperation) (a b : SetTerm)

/-- A written mark for places. -/
inductive MarkTerm where
  /-- The start, of the text or of a line. -/
  | start
  /-- The end, of the text or of a line. -/
  | finish
  /-- The start of the text. -/
  | textStart
  /-- The end of the text. -/
  | textEnd
  /-- A mark about words. -/
  | word (m : WordMark)
deriving DecidableEq, Repr

/-- A part of a regular expression. -/
inductive Term where
  /-- Nothing. -/
  | nothing (span : Span)
  /-- Flags that hold for the parts that follow. -/
  | changes (span : Span) (flags : FlagChanges)
  /-- A character. -/
  | char (l : Literal)
  /-- Any character. -/
  | dot (span : Span)
  /-- A mark. -/
  | mark (span : Span) (m : MarkTerm)
  /-- One character of a set. -/
  | oneOf (s : SetTerm)
  /-- A part again and again. -/
  | repeated (span : Span) (least : Nat) (most : Option Nat) (inner : Term)
  /-- A part between parentheses, with flags that hold inside of it. -/
  | group (span : Span) (isNoted : Bool) (flags : FlagChanges) (inner : Term)
  /-- One of several parts. -/
  | choice (span : Span) (items : List Term)
  /-- Parts one after the other. -/
  | sequence (span : Span) (items : List Term)

/-- Where a set is written. -/
def SetTerm.span : SetTerm → Span
  | char l => l.span
  | range low high => ⟨low.span.start, high.span.stop⟩
  | nothing span | named span _ _ | bracketed span _ _ | union span _ | operation span _ _ _ => span

/-- Where a part is written. -/
def Term.span : Term → Span
  | char l => l.span
  | oneOf s => s.span
  | nothing span | changes span _ | dot span | mark span _ | repeated span _ _ _ | group span _ _ _
  | choice span _ | sequence span _ => span

/-- How deep parts may be nested. -/
def nestingLimit : Nat := 250

mutual

/-- Where the first set is written that is nested too deep, if it stands below so many others. -/
def SetTerm.tooDeep? (depth : Nat) (t : SetTerm) : Option Span :=
  match t with
  | .nothing _ | .char _ | .range _ _ | .named _ _ _ => none
  | .bracketed span _ inside =>
    if nestingLimit ≤ depth then some span else inside.tooDeep? (depth + 1)
  | .union span items =>
    if nestingLimit ≤ depth then some span else SetTerm.tooDeepOf? (depth + 1) items
  | .operation span _ a b =>
    if nestingLimit ≤ depth then some span
    else
      match a.tooDeep? (depth + 1) with
      | some span => some span
      | none => b.tooDeep? (depth + 1)

/-- Where the first of some sets is written that is nested too deep. -/
def SetTerm.tooDeepOf? (depth : Nat) : List SetTerm → Option Span
  | [] => none
  | t :: ts =>
    match t.tooDeep? depth with
    | some span => some span
    | none => SetTerm.tooDeepOf? depth ts

end

mutual

/-- Where the first part is written that is nested too deep, if it stands below so many others. -/
def Term.tooDeep? (depth : Nat) (t : Term) : Option Span :=
  match t with
  | .nothing _ | .changes _ _ | .char _ | .dot _ | .mark _ _ => none
  | .oneOf s => s.tooDeep? depth
  | .repeated span _ _ inner | .group span _ _ inner =>
    if nestingLimit ≤ depth then some span else inner.tooDeep? (depth + 1)
  | .choice span items | .sequence span items =>
    if nestingLimit ≤ depth then some span else Term.tooDeepOf? (depth + 1) items

/-- Where the first of some parts is written that is nested too deep. -/
def Term.tooDeepOf? (depth : Nat) : List Term → Option Span
  | [] => none
  | t :: ts =>
    match t.tooDeep? depth with
    | some span => some span
    | none => Term.tooDeepOf? depth ts

end

end Conform.Regex
