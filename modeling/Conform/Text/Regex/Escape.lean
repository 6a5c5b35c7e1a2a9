import Conform.Text.Regex.Scan
import Conform.Text.Regex.Term

/-!
# Escapes

What a backslash makes of the characters after it: a character, a class of characters, or a mark.

## Main definitions

- `Regex.Atom` — a part that is no group, no bracketed set and no repetition
- `Regex.Scan.escape` — reads an escape
-/

namespace Conform.Regex

/-- A part of a regular expression that is no group, no bracketed set and no repetition. -/
inductive Atom where
  /-- A character. -/
  | char (l : Literal)
  /-- One character of a class, or one that is not in it. -/
  | named (span : Span) (isNegated : Bool) (c : NamedClass)
  /-- A mark for a place. -/
  | mark (span : Span) (m : MarkTerm)
deriving DecidableEq, Repr

/-- An atom as a part of a regular expression. -/
def Atom.term : Atom → Term
  | char l => .char l
  | named span isNegated c => .oneOf (.named span isNegated c)
  | mark span m => .mark span m

/-- Where an atom is written. -/
def Atom.span (a : Atom) : Span := a.term.span

/-- Whether an escaped character stands for itself. -/
def isEscapable (c : Char) : Bool :=
  c.toNat < 128 && !c.isAlphanum && c != '<' && c != '>'

/-- The character of a code point, if it has one. -/
def charOfCode? (n : Nat) : Option Char :=
  if h : n.isValidChar then some (Char.ofNatAux n h) else none

/-- The class that a one-letter escape names, and whether its complement is meant. -/
def namedClass? (c : Char) : Option (Bool × NamedClass) :=
  match c with
  | 'd' => some (false, .digits)
  | 'D' => some (true, .digits)
  | 's' => some (false, .blanks)
  | 'S' => some (true, .blanks)
  | 'w' => some (false, .wordParts)
  | 'W' => some (true, .wordParts)
  | _ => none

/-- The control character that a one-letter escape names. -/
def namedControl? (c : Char) : Option Char :=
  match c with
  | 'a' => some '\x07'
  | 'f' => some '\x0c'
  | 'n' => some '\n'
  | 'r' => some '\r'
  | 't' => some '\t'
  | 'v' => some '\x0b'
  | _ => none

/-- The mark that a one-letter escape names. -/
def namedMark? (c : Char) : Option MarkTerm :=
  match c with
  | 'A' => some .textStart
  | 'z' => some .textEnd
  | 'b' => some (.word .edge)
  | 'B' => some (.word .noEdge)
  | '<' => some (.word .start)
  | '>' => some (.word .finish)
  | _ => none

/-- The mark about words that a name between braces names. -/
def wordMark? (name : String) : Option WordMark :=
  if name = "start" then some .start
  else if name = "end" then some .finish
  else if name = "start-half" then some .noWordBefore
  else if name = "end-half" then some .noWordAfter
  else none

/-- The question about a property that stands between braces. -/
def propertyQuery (text : String) : Unicode.PropertyQuery :=
  match cut ['!', '='] text.toList, cut [':'] text.toList, cut ['='] text.toList with
  | some (property, value), _, _ => .valued property value
  | none, some (property, value), _ => .valued property value
  | none, none, some (property, value) => .valued property value
  | none, none, none => .named text
where
  /-- What stands before the first of some marks, and what stands after it. -/
  cut (mark : List Char) : List Char → Option (String × String)
    | [] => none
    | c :: cs =>
      if mark.isPrefixOf (c :: cs) then some ("", String.ofList ((c :: cs).drop mark.length))
      else (cut mark cs).map fun (before, after) => (c.toString ++ before, after)

namespace Scan

/-- The character of a code, or a complaint about the stretch that gives the code. -/
def charOfCode (n start stopping : Nat) : Scan Char :=
  match charOfCode? n with
  | some c => return c
  | none => stop .noScalarValue ⟨start, stopping⟩

/-- Takes a number of hexadecimal digits and extends a code by them. -/
def hexDigits : Nat → Nat → Scan Nat
  | 0, n => return n
  | count + 1, n => do
    match ← peek with
    | none => stopHere .unfinishedEscape
    | some c =>
      match Hexadecimal.digit? c with
      | none => stopNext .badHexDigit
      | some d =>
        let _ ← advance
        hexDigits count (16 * n + d)

/-- Takes hexadecimal digits up to a closing brace, and answers the code they give and whether there
    was none. -/
def hexToBrace (brace : Nat) : Nat → Bool → Nat → Scan (Nat × Bool)
  | 0, none?, n => return (n, none?)
  | fuel + 1, none?, n => do
    match ← peek with
    | none => stopFrom .unfinishedEscape brace
    | some '\x7d' => return (n, none?)
    | some c =>
      match Hexadecimal.digit? c with
      | none => stopNext .badHexDigit
      | some d =>
        let _ ← advance
        hexToBrace brace fuel false (min (16 * n + d) 0x110000)

/-- A character given by its code, after the backslash, which stands at `escapeStart`; the letter
    says how many digits there are if there are no braces. -/
def hexEscape (escapeStart : Nat) (letter : Char) : Scan Literal := do
  if !(← advance) then stopHere .unfinishedEscape
  else
    let start ← position
    if (← peek) == some '\x7b' then
      let _ ← advance
      let (n, isEmpty) ← hexToBrace start (← fuel) true 0
      let stopping ← position
      let _ ← advance
      if isEmpty then stopFrom .emptyHex start
      else
        let char ← charOfCode n (start + 1) stopping
        return { span := ⟨escapeStart, ← position⟩, char }
    else
      let count := if letter = 'x' then 2 else if letter = 'u' then 4 else 8
      let n ← hexDigits count 0
      let stopping ← position
      let char ← charOfCode n start stopping
      return { span := ⟨escapeStart, stopping⟩, char, isByte := letter = 'x' }

/-- Takes the characters of a name up to one that is not in it, and the blanks among them. -/
def nameWhile (isIn : Char → Bool) : Nat → List Char → Scan String
  | 0, name => return String.ofList name.reverse
  | fuel + 1, name => do
    match ← peek with
    | none => return String.ofList name.reverse
    | some c =>
      if isIn c then
        let _ ← advance
        nameWhile isIn fuel (c :: name)
      else return String.ofList name.reverse

/-- The kind of word mark between braces, if what comes next is one. What does not start with a
    letter or a hyphen is left for a counted repetition. -/
def bracedWordMark? (escapeStart : Nat) : Scan (Option WordMark) := do
  let before ← get
  let isIn := fun (c : Char) => c.isAlpha || c == '-'
  if (← peek) != some '\x7b' then return none
  else
    let brace ← position
    if !(← advance) then stopFrom .unfinishedWordMark escapeStart
    else if !(← peek).any isIn then
      set before
      return none
    else
      let nameStart ← position
      let name ← nameWhile isIn (← fuel) []
      if (← peek) != some '\x7d' then stopFrom .unclosedWordMark brace
      else
        let nameStop ← position
        take
        match wordMark? name with
        | some m => return some m
        | none => stop .unknownWordMark ⟨nameStart, nameStop⟩

/-- The question about a property that an escape asks, after the backslash. -/
def propertyEscape : Scan Unicode.PropertyQuery := do
  if !(← advance) then stopHere .unfinishedEscape
  else if (← peek) == some '\x7b' then
    let _ ← advance
    let text ← nameWhile (· != '\x7d') (← fuel) []
    if ← atEnd then stopHere .unfinishedEscape
    else
      take
      return propertyQuery text
  else if (← peek) == some '\\' then stopNext .badProperty
  else
    let name := String.ofList (← peek).toList
    let _ ← advance
    return .named name

/-- An escape, from its backslash on. -/
def escape : Scan Atom := do
  let start ← position
  take
  match ← peek with
  | none => stopFrom .unfinishedEscape start
  | some c =>
    if c.isDigit then stop .backreference ⟨start, (← position) + 1⟩
    else if c = 'x' ∨ c = 'u' ∨ c = 'U' then return .char (← hexEscape start c)
    else if c = 'p' ∨ c = 'P' then
      let query ← propertyEscape
      return .named ⟨start, ← position⟩ (c = 'P') (.property query)
    else
      take
      let span : Span := ⟨start, ← position⟩
      if isEscapable c then return .char { span, char := c }
      else
        match namedClass? c, namedControl? c, namedMark? c with
        | some (isNegated, named), _, _ => return .named span isNegated named
        | _, some char, _ => return .char { span, char }
        | _, _, some m =>
          let braced ← if c = 'b' then bracedWordMark? start else pure none
          return .mark ⟨start, ← position⟩ (braced.elim m .word)
        | _, _, _ => stopFrom .unknownEscape start

end Scan

end Conform.Regex
