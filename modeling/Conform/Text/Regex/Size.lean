import Conform.Text.Regex.Basic

/-!
# The size of regular expressions

Before it is used, a regular expression is turned into two automata over the bytes of a text, one
that reads a text forwards and one that reads it backwards. A counted repetition takes up as many
copies of its part. An expression whose automata take up too much memory is refused.

## Main definitions

- `Regex.byteSequences` — the bytes of the characters of a set
- `Regex.Size` — what an expression takes up in both automata
- `Regex.isTooLarge` — whether an expression is refused
-/

namespace Conform.Regex

/-- A range of bytes. -/
abbrev ByteRange := Nat × Nat

/-- The bytes of a code point. -/
def bytesOf (n : Nat) : List Nat :=
  if n < 0x80 then [n]
  else if n < 0x800 then [0xC0 + n / 64, 0x80 + n % 64]
  else if n < 0x10000 then [0xE0 + n / 4096, 0x80 + n / 64 % 64, 0x80 + n % 64]
  else [0xF0 + n / 262144, 0x80 + n / 4096 % 64, 0x80 + n / 64 % 64, 0x80 + n % 64]

/-- Two parts of a range of code points, if the bytes of its characters cannot be given as one range
    for each byte. -/
def divide? (low high : Nat) : Option (List (Nat × Nat)) :=
  if high < low then some []
  else if low < 0xE000 ∧ 0xD7FF < high then some [(low, 0xD7FF), (0xE000, high)]
  else
    match [0x7F, 0x7FF, 0xFFFF].find? fun most => low ≤ most && most < high with
    | some most => some [(low, most), (most + 1, high)]
    | none =>
      if high < 0x80 then none
      else
        [64, 4096, 262144].findSome? fun unit =>
          if low / unit = high / unit then none
          else if low % unit ≠ 0 then
            let next := (low / unit + 1) * unit
            some [(low, next - 1), (next, high)]
          else if high % unit ≠ unit - 1 then
            let last := high / unit * unit
            some [(low, last - 1), (last, high)]
          else none

/-- The bytes of the characters of some ranges, as sequences of ranges of bytes. The fuel bounds the
    parts into which the ranges are divided. -/
def sequencesOf : Nat → List (Nat × Nat) → List (List ByteRange)
  | 0, _ => []
  | _, [] => []
  | fuel + 1, (low, high) :: more =>
    match divide? low high with
    | some parts => sequencesOf fuel (parts ++ more)
    | none => (bytesOf low).zip (bytesOf high) :: sequencesOf fuel more

/-- The bytes of the characters of a set, as sequences of ranges of bytes. -/
def byteSequences (s : CharSet) : List (List ByteRange) :=
  sequencesOf (64 * s.ranges.length) s.ranges

/-- Sequences that are not empty, by their first range: the sequences that go on after it. -/
def branches : List (List ByteRange) → List (ByteRange × List (List ByteRange))
  | [] => []
  | [] :: more => branches more
  | (first :: rest) :: more =>
    match branches more with
    | (next, rests) :: others =>
      if next = first then (first, rest :: rests) :: others
      else (first, [rest]) :: (next, rests) :: others
    | [] => [(first, [rest])]

/-- The states of an automaton that reads some sequences, each given by what it has still to read.
    No sequence is longer than the given depth. -/
def statesOf : Nat → List (List ByteRange) → List (List (List ByteRange))
  | 0, _ => []
  | depth + 1, sequences =>
    match branches sequences with
    | [] => []
    | found => sequences :: found.flatMap fun (_, rests) => statesOf depth rests

/-- How many ranges some sequences have that are not in front of the sequence before them too. -/
def freshRanges : List ByteRange → List (List ByteRange) → Nat
  | _, [] => 0
  | last, s :: more =>
    let shared := ((last.zip s).takeWhile fun (a, b) => a = b).length
    s.length - shared + freshRanges s more

/-- What an expression takes up, in bytes, in the automaton that reads forwards and in the one that
    reads backwards. -/
structure Size where
  /-- In the one that reads forwards. -/
  forward : Nat
  /-- In the one that reads backwards. -/
  backward : Nat
deriving DecidableEq, Repr

namespace Size

/-- As much in both automata. -/
def both (n : Nat) : Size := ⟨n, n⟩

/-- Two sizes together. -/
def add (a b : Size) : Size := ⟨a.forward + b.forward, a.backward + b.backward⟩

/-- A size so many times. -/
def times (n : Nat) (a : Size) : Size := ⟨n * a.forward, n * a.backward⟩

/-- A state. -/
def state : Size := both 32

/-- The size of a set beyond ASCII, as an estimate from above. -/
def estimate (s : CharSet) : Size := both (64 + 4096 * s.ranges.length)

/-- The size of a set beyond ASCII. Forwards, states with the same to read are one; backwards, those
    with the same behind them. -/
def exact (s : CharSet) : Size :=
  let sequences := byteSequences s
  let states := (statesOf 4 sequences).eraseDups
  let edges := states.foldl (fun n t => n + (branches t).length) 0
  ⟨32 * (1 + states.length) + 8 * edges,
    32 * (2 + freshRanges [] sequences) + 4 * sequences.length⟩

/-- The size of a set, given that of a set beyond ASCII. -/
def ofSet (wide : CharSet → Size) (s : CharSet) : Size :=
  match s.ranges with
  | [(low, high)] =>
    if low = high then both (32 * (bytesOf low).length)
    else if high < 0x80 then both 72
    else wide s
  | ranges =>
    if ranges.all fun (_, high) => high < 0x80 then both (64 + 8 * ranges.length) else wide s

end Size

/-- What is known about an expression when its size is found. -/
structure Weight where
  /-- Its size. -/
  size : Size
  /-- The size of its alternatives, if it has several. -/
  parts : Size := size
  /-- How many alternatives it has. -/
  count : Nat := 1
  /-- The set it stands for, if it stands for one character. -/
  set : Option CharSet := none
  /-- Whether it says nothing. -/
  isNothing : Bool := false
  /-- Whether it may match no character. -/
  mayBeEmpty : Bool := false
  /-- Whether it never matches a character. -/
  isEmpty : Bool := false

namespace Weight

/-- What says nothing. -/
def nothing : Weight :=
  { size := .state, isNothing := true, mayBeEmpty := true, isEmpty := true }

/-- One after the other. -/
def append (a b : Weight) : Weight :=
  if a.isNothing then b
  else if b.isNothing then a
  else
    { size := a.size.add b.size
      mayBeEmpty := a.mayBeEmpty && b.mayBeEmpty
      isEmpty := a.isEmpty && b.isEmpty }

/-- One or the other. Alternatives that all stand for one character are one set. -/
def either (wide : CharSet → Size) (a b : Weight) : Weight :=
  match a.set, b.set with
  | some s, some t => { size := .ofSet wide (s.union t), set := some (s.union t) }
  | _, _ =>
    let parts := a.parts.add b.parts
    let count := a.count + b.count
    { size := parts.add (.both (64 + 4 * count)), parts, count
      mayBeEmpty := a.mayBeEmpty || b.mayBeEmpty
      isEmpty := a.isEmpty && b.isEmpty }

/-- Again and again. What never matches a character is needed once at most. -/
def repeated (least : Nat) (most : Option Nat) (a : Weight) : Weight :=
  let least := if a.isEmpty then min least 1 else least
  let most := if a.isEmpty then some (min (most.getD 1) 1) else most
  let mayBeEmpty := least == 0 || a.mayBeEmpty
  let ofSize (size : Size) : Weight := { size, mayBeEmpty, isEmpty := a.isEmpty }
  match least, most with
  | 0, some 0 => nothing
  | 1, some 1 => a
  | 0, some 1 => ofSize (a.size.add (.both 72))
  | 0, none => ofSize (a.size.add (.both (if a.mayBeEmpty then 112 else 40)))
  | least, none => ofSize ((a.size.times least).add (.both 40))
  | least, some most =>
    let needed := if least = 0 then Size.state else a.size.times least
    if least = most then ofSize needed
    else ofSize ((needed.add .state).add ((a.size.add (.both 40)).times (most - least)))

/-- A part whose place in a match is noted, which only happens when a text is read forwards. -/
def noted (a : Weight) : Weight :=
  { size := ⟨a.size.forward + 64, a.size.backward⟩
    mayBeEmpty := a.mayBeEmpty, isEmpty := a.isEmpty }

end Weight

/-- What is known about an expression, given the sizes of sets beyond ASCII. -/
def weight (wide : CharSet → Size) : Regex → Weight
  | empty => .nothing
  | oneOf s => { size := .ofSet wide s, set := some s }
  | mark _ => { size := .state, mayBeEmpty := true, isEmpty := true }
  | append a b => (a.weight wide).append (b.weight wide)
  | either a b => .either wide (a.weight wide) (b.weight wide)
  | repeated least most a => (a.weight wide).repeated least most
  | noted a => (a.weight wide).noted

/-- The memory that an automaton may take up, in bytes. -/
def memoryLimit : Nat := 10485760

/-- Whether an automaton takes up too much memory, given the sizes of sets beyond ASCII. What comes
    before and after the expression itself is counted in. -/
def exceeds (wide : CharSet → Size) (r : Regex) : Bool :=
  let size := (r.weight wide).size
  decide (memoryLimit < size.forward + 208) || decide (memoryLimit < size.backward + 144)

/-- Whether a regular expression is refused because of its size. -/
def isTooLarge (r : Regex) : Bool := r.exceeds .estimate && r.exceeds .exact

end Conform.Regex
