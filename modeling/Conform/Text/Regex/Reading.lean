import Conform.Text.Regex.Bracketed
import Conform.Text.Regex.Meaning

/-!
# Reading regular expressions

A regular expression is written with `.`, `^`, `$`, `|`, repetition marks, counts between braces,
parentheses, bracketed sets and escapes. A group may have a name, or flags that hold inside it;
flags without a group hold up to the end of the group around them. What is wrong with how an
expression is written goes before what is wrong with what it means.

## Main definitions

- `Regex.Group` — a group that is being read
- `Regex.Term.read` — reads a regular expression as it is written
- `Regex.read` — reads a regular expression
-/

namespace Conform.Regex

/-- Parts one after the other that are being read. -/
structure Parts where
  /-- Where they start. -/
  start : Nat
  /-- The parts so far, last first. -/
  parts : List Term := []

/-- The part that some parts make up, if they end at a place. -/
def Parts.term (p : Parts) (stopping : Nat) : Term :=
  match p.parts with
  | [] => .nothing ⟨p.start, stopping⟩
  | [t] => t
  | parts => .sequence ⟨p.start, stopping⟩ parts.reverse

/-- A group that is being read. -/
structure Group where
  /-- The character that opened it. -/
  opening : Nat
  /-- Whether its place in a match is noted. -/
  isNoted : Bool := true
  /-- The flags that hold inside of it. -/
  flags : FlagChanges := []
  /-- Whether blanks and comments say nothing outside of it. -/
  wasSpaced : Bool := false
  /-- Where its inside starts. -/
  start : Nat
  /-- Its alternatives so far, last first. -/
  alternatives : List Term := []
  /-- The alternative that is being read. -/
  parts : Parts := { start }

namespace Group

/-- The group with one part more. -/
def push (g : Group) (t : Term) : Group :=
  { g with parts := { g.parts with parts := t :: g.parts.parts } }

/-- The group with the alternative that is being read ended at a place, before a bar. -/
def next (g : Group) (place : Nat) : Group :=
  { g with alternatives := g.parts.term place :: g.alternatives, parts := { start := place + 1 } }

/-- What the group holds if it ends at a place. -/
def inside (g : Group) (place : Nat) : Term :=
  match g.alternatives with
  | [] => g.parts.term place
  | earlier => .choice ⟨g.start, place⟩ (g.parts.term place :: earlier).reverse

/-- The group that is closed by the character at a place. -/
def term (g : Group) (place : Nat) : Term :=
  .group ⟨g.opening, place + 1⟩ g.isNoted g.flags (g.inside place)

end Group

/-- A flag and whether it comes after the negation. -/
structure FlagItem where
  /-- The letter. -/
  letter : Char
  /-- Where it is written. -/
  span : Span

/-- The changes that some written flags make. Those after a hyphen are taken away. -/
def flagChanges (isOn : Bool) : List FlagItem → FlagChanges
  | [] => []
  | item :: items =>
    match Flag.ofLetter? item.letter with
    | some flag => (flag, isOn) :: flagChanges isOn items
    | none => flagChanges false items

/-- Whether a character may be part of the name of a group. -/
def isNamePart (isFirst : Bool) (c : Char) : Bool :=
  c == '_' ||
    if isFirst then CharacterClass.isAlphabetic c
    else c == '.' || c == '[' || c == ']' || CharacterClass.isAlphanumeric c

namespace Scan

/-- Reads flags up to a colon or a closing parenthesis, after some that have been read, last
    first. -/
def flagsNext : Nat → List FlagItem → Scan (List FlagItem)
  | 0, _ => stopHere .unfinishedFlags
  | fuel + 1, items => do
    match ← peek with
    | none => stopHere .unfinishedFlags
    | some c =>
      if c = ':' ∨ c = ')' then
        match items with
        | ⟨'-', span⟩ :: _ => stop .danglingNegation span
        | _ => return items.reverse
      else if c ≠ '-' ∧ (Flag.ofLetter? c).isNone then stopNext .unknownFlag
      else
        let span : Span := ⟨← position, (← position) + 1⟩
        match items.find? fun item => item.letter == c with
        | some item =>
          throw ⟨if c = '-' then .repeatedNegation else .repeatedFlag, span, some item.span⟩
        | none =>
          take
          flagsNext fuel (⟨c, span⟩ :: items)

/-- Takes the characters of the name of a group, up to its closing mark. -/
def groupNameFrom (start : Nat) : Nat → List Char → Scan (List Char)
  | 0, name => return name.reverse
  | fuel + 1, name => do
    match ← peek with
    | none | some '>' => return name.reverse
    | some c =>
      if isNamePart ((← position) == start) c then
        take
        groupNameFrom start fuel (c :: name)
      else stopNext .badName

/-- The name of a group, after its opening mark. No two groups have one name. -/
def groupName : Scan Unit := do
  let start ← position
  let name := String.ofList (← groupNameFrom start (← fuel) [])
  if ← atEnd then stopHere .unfinishedName
  else
    let span : Span := ⟨start, ← position⟩
    take
    if name = "" then stop .emptyName ⟨start, start⟩
    else
      match (← get).names.lookup name with
      | some earlier => throw ⟨.repeatedName, span, some earlier⟩
      | none => modify fun s => { s with names := (name, span) :: s.names }

/-- What opens at a parenthesis: a group, or flags that hold for what follows. -/
inductive Opening where
  | group (g : Group)
  | flags (t : Term)

/-- Takes what opens at a parenthesis. -/
def openGroup : Scan Opening := do
  let opening ← position
  let wasSpaced := (← get).isSpaced
  take
  skipBlanks
  let inside ← position
  if (← takeIf "?=") || (← takeIf "?!") || (← takeIf "?<=") || (← takeIf "?<!") then
    stopFrom .lookAround opening
  else if (← takeIf "?P<") || (← takeIf "?<") then
    groupName
    return .group { opening, wasSpaced, start := ← position }
  else if ← takeIf "?" then
    if ← atEnd then stop .unclosedGroup ⟨opening, opening + 1⟩
    else
      let items ← flagsNext (← fuel) []
      let flags := flagChanges true items
      let isAlone := (← peek) == some ')'
      take
      if isAlone && items.isEmpty then stop .nothingToRepeat ⟨inside, inside⟩
      else
        modify fun s => { s with isSpaced := (flags.lookup .spaced).getD s.isSpaced }
        let place ← position
        if isAlone then return .flags (.changes ⟨opening, place⟩ flags)
        else return .group { opening, isNoted := false, flags, wasSpaced, start := place }
  else return .group { opening, wasSpaced, start := inside }

/-- Takes the digits of a count, with the blanks around it: the digits and where they stand. -/
def countDigits : Scan (String × Span) := do
  modify fun s =>
    let rest := s.rest.dropWhile CharacterClass.isBlank
    { s with rest, taken := s.taken + (s.rest.length - rest.length) }
  let start ← position
  let digits ← nameWhile Char.isDigit (← fuel) []
  let span : Span := ⟨start, ← position⟩
  modify fun s =>
    let rest := s.rest.dropWhile CharacterClass.isBlank
    { s with rest, taken := s.taken + (s.rest.length - rest.length) }
  return (digits, span)

/-- The number that the digits of a count give. -/
def countValue (digits : String) (span : Span) : Scan Nat :=
  if digits = "" then stop .noCount span
  else
    match digits.toNat? with
    | some n => if n < Nat.pow 2 32 then return n else stop .unreadableCount span
    | none => stop .unreadableCount span

/-- The bounds of a counted repetition, from its opening brace on, up to its closing one. -/
def countBounds : Scan (Nat × Option Nat) := do
  let start ← position
  if !(← advance) then stopFrom .unclosedCount start
  else
    let (digits, span) ← countDigits
    if ← atEnd then stopFrom .unclosedCount start
    else
      let bounds ←
        if (← peek) == some ',' then
          if !(← advance) then stopFrom .unclosedCount start
          else if (← peek) == some '\x7d' then
            let least ← countValue digits span
            pure (least, none)
          else
            let least ← countValue digits span
            let (digits, span) ← countDigits
            let most ← countValue digits span
            pure (least, some most)
        else
          let n ← countValue digits span
          pure (n, some n)
      if (← peek) != some '\x7d' then stopFrom .unclosedCount start
      else return bounds

/-- What a repetition mark makes of the part before it. A question mark after it only says which
    match is preferred. -/
def repetition (t : Term) (mark : Char) : Scan Term := do
  let start ← position
  let (least, most) ←
    if mark = '*' then pure (0, none)
    else if mark = '+' then pure (1, none)
    else if mark = '?' then pure (0, some 1)
    else countBounds
  take
  if mark = '\x7b' then skipBlanks
  if (← peek) == some '?' then take
  if most.any (· < least) then stopFrom .badCountRange start
  else return .repeated ⟨t.span.start, ← position⟩ least most t

/-- Reads on, inside a group and the groups around it. -/
def groupRest : Nat → Group → List Group → Scan Term
  | 0, inner, _ => return inner.inside (← position)
  | fuel + 1, inner, outer => do
    skipBlanks
    match ← peek with
    | none =>
      match outer with
      | [] => return inner.inside (← position)
      | _ :: _ => stop .unclosedGroup ⟨inner.opening, inner.opening + 1⟩
    | some c =>
      let place ← position
      if c = '(' then
        match ← openGroup with
        | .group g => groupRest fuel g (inner :: outer)
        | .flags t => groupRest fuel (inner.push t) outer
      else if c = ')' then
        match outer with
        | [] => stopNext .unopenedGroup
        | g :: gs =>
          take
          modify fun s => { s with isSpaced := inner.wasSpaced }
          groupRest fuel (g.push (inner.term place)) gs
      else if c = '|' then
        take
        groupRest fuel (inner.next place) outer
      else if c = '[' then
        let t ← bracketed
        groupRest fuel (inner.push (.oneOf t)) outer
      else if c = '*' ∨ c = '+' ∨ c = '?' ∨ c = '\x7b' then
        match inner.parts.parts with
        | [] | .changes _ _ :: _ => stopHere .nothingToRepeat
        | t :: parts =>
          let t ← repetition t c
          groupRest fuel { inner with parts := { inner.parts with parts := t :: parts } } outer
      else if c = '\\' then
        let atom ← escape
        groupRest fuel (inner.push atom.term) outer
      else
        take
        let span : Span := ⟨place, place + 1⟩
        let t : Term :=
          if c = '.' then .dot span
          else if c = '^' then .mark span .start
          else if c = '$' then .mark span .finish
          else .char { span, char := c }
        groupRest fuel (inner.push t) outer

end Scan

/-- Reads a regular expression as it is written. -/
def Term.read (s : String) : Except ReadError Term := do
  let scan : Scan Term := do Scan.groupRest (← Scan.fuel) { opening := 0, start := 0 } []
  let t ← scan.run' { rest := s.toList }
  match t.tooDeep? 0 with
  | some span => throw ⟨.nestedTooDeep, span, none⟩
  | none => return t

/-- Reads a regular expression. -/
def read (s : String) : Except ReadError Regex := do
  let t ← Term.read s
  return (← t.meaning {}).1

end Conform.Regex
