import Conform.Json.Numeral

/-!
# Reading documents

A document is read up to its end and no further: what comes after it in the text is not looked at.
Lists and objects may be nested up to a limit.

## Main definitions

- `Json.Reader.scalar?` — a value that is no list and no object
- `Json.Reader.value` — a document, given how many levels it may still open
- `Json.Reader.skipValue` — the same without keeping it, at any depth
- `Json.read` — reads a text
-/

namespace Conform.Json

/-- One more than the number of levels a document may have. -/
def nestingLimit : Nat := 128

namespace Reader

/-- Reads a value that starts with `b` and is no list and no object. -/
def scalar (b : UInt8) : Reader Json := do
  if b = 110 then
    advance
    literal [117, 108, 108]
    return .null
  else if b = 116 then
    advance
    literal [114, 117, 101]
    return .bool true
  else if b = 102 then
    advance
    literal [97, 108, 115, 101]
    return .bool false
  else if b = 45 then
    advance
    return .num (← number true)
  else if (digitValue? b).isSome then return .num (← number false)
  else if b = 34 then
    advance
    return .str (← string)
  else failNext .expectedValue

/-- Opens a list or an object, given how many levels may still be opened, and reads what is inside
    with one level less. -/
def enter {α : Type} (levels : Nat) (inside : Reader α) : Reader α := do
  if levels ≤ 1 then failNext .recursionLimit
  else
    advance
    inside

/-- Reads a document that may open fewer than `levels` levels. Members are kept in the order of the
    text, repetitions included. -/
def value : Nat → Reader Json
  | 0 => failNext .recursionLimit
  | levels + 1 => do
    match ← blank with
    | none => failNext .unfinishedValue
    | some b =>
      if b = 91 then
        enter (levels + 1) do
          let fuel ← remaining
          closedBy closeList do
            return .arr (← items (value levels) (fuel + 1) 0)
      else if b = 123 then
        enter (levels + 1) do
          let fuel ← remaining
          closedBy closeObject do
            let ms ← members (fun (acc : List (String × Json)) key => do
              return (key, ← memberValue key (value levels)) :: acc) (fuel + 1) true []
            return .obj ms.reverse
      else scalar b

/-- Skips a value of any depth, keeping the opening brackets that are still to be closed. -/
def skipValue : Reader Unit := do
  skip (4 * (← remaining) + 4) []
where
  /-- Skips a value inside the given brackets, innermost first; `fuel` bounds the steps. -/
  skip : Nat → List UInt8 → Reader Unit
    | 0, _ => failNext .unfinishedValue
    | fuel + 1, brackets => do
      match ← blank with
      | none => failNext .unfinishedValue
      | some b =>
        if b = 91 || b = 123 then
          advance
          close fuel false b brackets
        else
          skipScalar b
          match brackets with
          | [] => return ()
          | frame :: outer => close fuel true frame outer
  /-- Skips a scalar that starts with the given byte. -/
  skipScalar (b : UInt8) : Reader Unit := do
    if b = 110 then
      advance
      literal [117, 108, 108]
    else if b = 116 then
      advance
      literal [114, 117, 101]
    else if b = 102 then
      advance
      literal [97, 108, 115, 101]
    else if b = 45 then
      advance
      skipNumber
    else if (digitValue? b).isSome then skipNumber
    else if b = 34 then
      advance
      skipString ((← remaining) + 1)
    else failNext .expectedValue
  /-- Goes on after a value or an opening bracket, in the innermost bracket and those around it. -/
  close : Nat → Bool → UInt8 → List UInt8 → Reader Unit
    | 0, _, _, _ => failNext .unfinishedValue
    | fuel + 1, afterItem, frame, outer => do
      match ← blank with
      | none => failNext (if frame = 91 then .unfinishedList else .unfinishedObject)
      | some b =>
        if b = 44 && afterItem then
          advance
          proceed fuel frame outer
        else if (b = 93 && frame = 91) || (b = 125 && frame = 123) then
          advance
          match outer with
          | [] => return ()
          | frame :: outer => close fuel true frame outer
        else if afterItem then
          failNext (if frame = 91 then .expectedListCommaOrEnd else .expectedObjectCommaOrEnd)
        else proceed fuel frame outer
  /-- Skips the key of the next member, if the bracket is that of an object, and then its value. -/
  proceed : Nat → UInt8 → List UInt8 → Reader Unit
    | 0, _, _ => failNext .unfinishedValue
    | fuel + 1, frame, outer => do
      if frame = 123 then
        match ← blank with
        | none => failNext .unfinishedObject
        | some b =>
          if b = 34 then
            advance
            skipString ((← remaining) + 1)
            colon
          else failNext .keyMustBeString
      skip fuel (frame :: outer)

end Reader

/-- Reads a text as a document, with repeated keys merged. -/
def read (bytes : List UInt8) : Except PathError Json :=
  (Reader.run (Reader.value nestingLimit) bytes).map merged

end Conform.Json
