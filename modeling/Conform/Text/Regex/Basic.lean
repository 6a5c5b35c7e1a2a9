import Conform.Text.Unicode.Derived

/-!
# Regular expressions

Regular expressions over characters, with marks for places in the text that is searched. Which parts
of a text match is found for all places at once: an expression leads from the places where a match
may start to those where it may end.

## Main definitions

- `Regex` — a regular expression
- `Regex.Mark.holds` — whether a mark stands at a place
- `Regex.reach` — the places that matches lead to
- `Regex.occursIn` — whether some part of a text matches
-/

namespace Conform

namespace Regex

/-- A mark about words. -/
inductive WordMark where
  /-- The start or the end of a word. -/
  | edge
  /-- A place inside or outside of words. -/
  | noEdge
  /-- The start of a word. -/
  | start
  /-- The end of a word. -/
  | finish
  /-- A place with no word before it. -/
  | noWordBefore
  /-- A place with no word after it. -/
  | noWordAfter
deriving DecidableEq, Repr

/-- A mark for places in a text. -/
inductive Mark where
  /-- The start of the text. -/
  | start
  /-- The end of the text. -/
  | finish
  /-- The start of a line. If ends of lines may be of two characters, a carriage return ends a line
      too, with the line feed after it if there is one. -/
  | lineStart (isPaired : Bool)
  /-- The end of a line. -/
  | lineEnd (isPaired : Bool)
  /-- A mark about words of all scripts, or of ASCII characters alone. -/
  | word (isAscii : Bool) (m : WordMark)
deriving DecidableEq, Repr

/-- A place in a text. -/
structure Place where
  /-- How many characters are before the place. -/
  index : Nat
  /-- The characters before the place, nearest first. -/
  before : List Char
  /-- The characters after the place. -/
  after : List Char
deriving DecidableEq, Repr

/-- The edition of the character set that regular expressions know. -/
def edition : Unicode.Edition := .v16

/-- What words of all scripts are made of. -/
def wordParts : CharSet := Unicode.wordParts edition

/-- What words of ASCII characters are made of. -/
def asciiWordParts : CharSet :=
  .ofAscending [(0x30, 0x39), (0x41, 0x5A), (0x5F, 0x5F), (0x61, 0x7A)]

/-- Whether a mark about words stands between two characters, of which it is known whether they are
    part of a word. -/
def WordMark.holds (before after : Bool) : WordMark → Bool
  | edge => before != after
  | noEdge => before == after
  | start => !before && after
  | finish => before && !after
  | noWordBefore => !before
  | noWordAfter => !after

/-- Whether a mark stands at a place. -/
def Mark.holds (p : Place) : Mark → Bool
  | start => p.before.isEmpty
  | finish => p.after.isEmpty
  | lineStart isPaired =>
    match p.before.head? with
    | none => true
    | some c => c == '\n' || (isPaired && c == '\r' && p.after.head? != some '\n')
  | lineEnd isPaired =>
    match p.after.head? with
    | none => true
    | some c =>
      if isPaired then c == '\r' || (c == '\n' && p.before.head? != some '\r') else c == '\n'
  | word isAscii m =>
    let parts := if isAscii then asciiWordParts else wordParts
    m.holds (p.before.head?.any parts.contains) (p.after.head?.any parts.contains)

end Regex

/-- A regular expression. -/
inductive Regex where
  /-- Nothing. -/
  | empty
  /-- One character of a set. -/
  | oneOf (s : CharSet)
  /-- Nothing, at a certain kind of place. -/
  | mark (m : Regex.Mark)
  /-- One after the other. -/
  | append (a b : Regex)
  /-- One or the other. -/
  | either (a b : Regex)
  /-- Again and again, at least `least` times and, if there is a bound, at most `most` times. -/
  | repeated (least : Nat) (most : Option Nat) (a : Regex)
  /-- A part whose place in a match is noted. -/
  | noted (a : Regex)
deriving DecidableEq, Repr

namespace Regex

/-- One after the other. -/
def sequence (parts : List Regex) : Regex := parts.foldr append empty

/-- One of several. -/
def choice : List Regex → Regex
  | [] => empty
  | [a] => a
  | a :: more => either a (choice more)

/-- The place one character further, if that character is in a set. -/
def Place.past? (s : CharSet) (p : Place) : Option Place :=
  match p.after with
  | [] => none
  | c :: after => if s.contains c then some ⟨p.index + 1, c :: p.before, after⟩ else none

/-- The places of a text from one on: how many characters are before it, these, nearest first, and
    those after it. -/
def placesFrom (index : Nat) (before : List Char) : List Char → List Place
  | [] => [⟨index, before, []⟩]
  | c :: after => ⟨index, before, c :: after⟩ :: placesFrom (index + 1) (c :: before) after

/-- The places of two lists in ascending order. -/
def join : List Place → List Place → List Place
  | [], qs => qs
  | ps, [] => ps
  | p :: ps, q :: qs =>
    if p.index < q.index then p :: join ps (q :: qs)
    else if q.index < p.index then q :: join (p :: ps) qs
    else p :: join ps qs
termination_by ps qs => ps.length + qs.length

/-- The places of a list in ascending order that are not in another. -/
def minus : List Place → List Place → List Place
  | [], _ => []
  | ps, [] => ps
  | p :: ps, q :: qs =>
    if p.index < q.index then p :: minus ps (q :: qs)
    else if q.index < p.index then minus (p :: ps) qs
    else minus ps qs
termination_by ps qs => ps.length + qs.length

/-- Where a step leads that is taken a number of times. Once it leads nowhere new, more steps change
    nothing. -/
def times (step : List Place → List Place) : Nat → List Place → List Place
  | 0, ps => ps
  | n + 1, ps =>
    let next := step ps
    if next.map Place.index = ps.map Place.index then ps else times step n next

/-- Where a step leads that is taken up to a number of times from some new places, with the places
    known before. -/
def upTo (step : List Place → List Place) : Nat → List Place → List Place → List Place
  | 0, known, _ => known
  | n + 1, known, fresh =>
    match minus (step fresh) known with
    | [] => known
    | p :: ps => upTo step n (join known (p :: ps)) (p :: ps)

/-- How many characters are after the first of some places. -/
def room (ps : List Place) : Nat := (ps.head?.map fun p => p.after.length).getD 0

/-- The places that matches lead to from some places. Both lists are in ascending order. In a text
    of `n` characters a step moves on at most `n` times; so after `n + 1` steps it has stayed where
    it is, and can do so again. -/
def reach : Regex → List Place → List Place
  | empty, ps => ps
  | oneOf s, ps => ps.filterMap fun p => p.past? s
  | mark m, ps => ps.filter fun p => m.holds p
  | append a b, ps => b.reach (a.reach ps)
  | either a b, ps => join (a.reach ps) (b.reach ps)
  | repeated least most a, ps =>
    let bound := room ps + 1
    let needed := times a.reach (min least bound) ps
    let further := match most with
      | some n => min (n - least) bound
      | none => bound
    upTo a.reach further needed needed
  | noted a, ps => a.reach ps

/-- Whether some part of a text matches. -/
def occursIn (r : Regex) (s : String) : Bool := !(r.reach (placesFrom 0 [] s.toList)).isEmpty

/-- Whether a regular expression asks about words of all scripts. -/
def asksAboutWords : Regex → Bool
  | empty | oneOf _ => false
  | mark (.word isAscii _) => !isAscii
  | mark _ => false
  | append a b | either a b => a.asksAboutWords || b.asksAboutWords
  | repeated _ most a => most != some 0 && a.asksAboutWords
  | noted a => a.asksAboutWords

end Regex

end Conform
