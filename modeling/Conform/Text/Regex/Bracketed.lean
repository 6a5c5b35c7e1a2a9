import Conform.Text.Regex.Escape

/-!
# Bracketed sets

A set of characters between brackets: characters, ranges, escapes, named ASCII classes and further
bracketed sets, all of which are united, with `&&`, `--` and `~~` between the operands of set
operations. A caret after the opening bracket makes it the complement.

## Main definitions

- `Regex.Items` — the items of an operand that is being read
- `Regex.Bracket` — a bracketed set that is being read
- `Regex.Scan.bracketed` — reads a bracketed set
-/

namespace Conform.Regex

/-- The items of an operand that is being read. -/
structure Items where
  /-- Where the operand starts, as long as it has no items. -/
  start : Nat
  /-- The items so far, last first. -/
  items : List SetTerm := []

namespace Items

/-- The items with one more. -/
def push (i : Items) (t : SetTerm) : Items := { i with items := t :: i.items }

/-- The operand that the items make up. -/
def term (i : Items) : SetTerm :=
  match i.items with
  | [] => .nothing ⟨i.start, i.start⟩
  | [t] => t
  | last :: items =>
    let first := items.getLast?.getD last
    .union ⟨first.span.start, last.span.stop⟩ i.items.reverse

end Items

/-- A bracketed set that is being read. -/
structure Bracket where
  /-- The stretch that opens it. -/
  opening : Span
  /-- Whether it is the complement of what it lists. -/
  isNegated : Bool
  /-- The operand before the last operation, with that operation. -/
  pending : Option (SetTerm × SetOperation) := none
  /-- The operand that is being read. -/
  operand : Items

namespace Bracket

/-- The bracket with one item more. -/
def push (b : Bracket) (t : SetTerm) : Bracket := { b with operand := b.operand.push t }

/-- What has been listed so far. -/
def listed (b : Bracket) : SetTerm :=
  match b.pending with
  | none => b.operand.term
  | some (a, op) =>
    .operation ⟨a.span.start, b.operand.term.span.stop⟩ op a b.operand.term

/-- The bracket after an operation, up to a place. -/
def operate (b : Bracket) (op : SetOperation) (place : Nat) : Bracket :=
  { b with pending := some (b.listed, op), operand := { start := place } }

/-- The set that the bracket stands for if it is closed before a place. -/
def term (b : Bracket) (stopping : Nat) : SetTerm :=
  .bracketed ⟨b.opening.start, stopping⟩ b.isNegated b.listed

end Bracket

/-- The named classes of ASCII characters. -/
def asciiClass? (name : String) : Option CharSet :=
  let upper := (0x41, 0x5A)
  let lower := (0x61, 0x7A)
  let digit := (0x30, 0x39)
  let ranges : Option (List (Nat × Nat)) := match name with
    | "alnum" => some [digit, upper, lower]
    | "alpha" => some [upper, lower]
    | "ascii" => some [(0, 0x7F)]
    | "blank" => some [(9, 9), (0x20, 0x20)]
    | "cntrl" => some [(0, 0x1F), (0x7F, 0x7F)]
    | "digit" => some [digit]
    | "graph" => some [(0x21, 0x7E)]
    | "lower" => some [lower]
    | "print" => some [(0x20, 0x7E)]
    | "punct" => some [(0x21, 0x2F), (0x3A, 0x40), (0x5B, 0x60), (0x7B, 0x7E)]
    | "space" => some [(9, 0xD), (0x20, 0x20)]
    | "upper" => some [upper]
    | "word" => some [digit, upper, (0x5F, 0x5F), lower]
    | "xdigit" => some [digit, (0x41, 0x46), (0x61, 0x66)]
    | _ => none
  ranges.map CharSet.ofAscending

namespace Scan

/-- A named ASCII class, if one comes next: between `[:` and `:]`, after a caret if it stands for
    the other characters. -/
def asciiClassNext? : Scan (Option SetTerm) := do
  let s ← get
  match s.rest with
  | '[' :: ':' :: cs =>
    let isNegated := cs.head? == some '^'
    let name := (if isNegated then cs.drop 1 else cs).takeWhile (· != ':')
    let size := 2 + (if isNegated then 1 else 0) + name.length
    match s.rest.drop size, asciiClass? (String.ofList name) with
    | ':' :: ']' :: rest, some c =>
      let taken := s.taken + size + 2
      set { s with rest, taken }
      return some (.named ⟨s.taken, taken⟩ isNegated (.ascii c))
    | _, _ => return none
  | _ => return none

/-- Takes hyphens, which stand for themselves at the front of a bracketed set. -/
def hyphens (start : Nat) : Nat → Items → Scan Items
  | 0, items => return items
  | fuel + 1, items => do
    if (← peek) == some '-' then
      let place ← position
      if ← advance then
        hyphens start fuel (items.push (.char { span := ⟨place, place + 1⟩, char := '-' }))
      else stop .unclosedClass ⟨start, start⟩
    else return items

/-- Opens a bracketed set. A closing bracket at its front stands for itself. -/
def openBracket : Scan Bracket := do
  let start ← position
  if !(← advance) then stopFrom .unclosedClass start
  else
    let isNegated := (← peek) == some '^'
    let isOpen ← if isNegated then advance else pure true
    if !isOpen then stopFrom .unclosedClass start
    else
      let dashes ← hyphens start (← fuel) { start := ← position }
      let operand ←
        if dashes.items.isEmpty && (← peek) == some ']' then
          let place ← position
          if ← advance then pure (dashes.push (.char { span := ⟨place, place + 1⟩, char := ']' }))
          else stopFrom .unclosedClass start
        else pure dashes
      return { opening := ⟨start, ← position⟩, isNegated, operand }

/-- An item of a bracketed set: an escape or a character. -/
def bracketAtom : Scan Atom := do
  match ← peek with
  | some '\\' => escape
  | some char =>
    let place ← position
    take
    return .char { span := ⟨place, place + 1⟩, char }
  | none => stopHere .unclosedClass

/-- An item or a range of a bracketed set that was opened at `opening`. -/
def bracketItem (opening : Span) : Scan SetTerm := do
  let first ← bracketAtom
  skipBlanks
  let second ← peekPastMargin
  if ← atEnd then stop .unclosedClass opening
  else if (← peek) != some '-' || second == some ']' || second == some '-' then
    match first with
    | .char l => return .char l
    | .named span isNegated c => return .named span isNegated c
    | .mark span _ => stop .badClassEscape span
  else if !(← advance) then stop .unclosedClass opening
  else
    let last ← bracketAtom
    match first, last with
    | .char low, .char high =>
      if low.char.toNat ≤ high.char.toNat then return .range low high
      else stop .badClassRange ⟨low.span.start, high.span.stop⟩
    | .char _, _ => stop .badRangeBound last.span
    | _, _ => stop .badRangeBound first.span

/-- Reads on in a bracketed set inside others. -/
def bracketRest : Nat → Bracket → List Bracket → Scan SetTerm
  | 0, inner, _ => stop .unclosedClass inner.opening
  | fuel + 1, inner, outer => do
    skipBlanks
    match ← peek with
    | none => stop .unclosedClass inner.opening
    | some c =>
      if c = '[' then
        match ← asciiClassNext? with
        | some t => bracketRest fuel (inner.push t) outer
        | none => bracketRest fuel (← openBracket) (inner :: outer)
      else if c = ']' then
        take
        let t := inner.term (← position)
        match outer with
        | [] => return t
        | b :: bs => bracketRest fuel (b.push t) bs
      else if ← takeIf "&&" then
        bracketRest fuel (inner.operate .intersection (← position)) outer
      else if ← takeIf "--" then
        bracketRest fuel (inner.operate .subtraction (← position)) outer
      else if ← takeIf "~~" then
        bracketRest fuel (inner.operate .symmetricDifference (← position)) outer
      else bracketRest fuel (inner.push (← bracketItem inner.opening)) outer

/-- A bracketed set, from its opening bracket on. -/
def bracketed : Scan SetTerm := do
  let b ← openBracket
  bracketRest (← fuel) b []

end Scan

end Conform.Regex
