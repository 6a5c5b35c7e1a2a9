import Conform.Json.Reader

/-!
# Tokens of JSON

Readers for blanks, literals, strings and punctuation.

## Main definitions

- `Json.Reader.blank` — skips blanks and looks at the next byte
- `Json.Reader.literal` — the rest of a literal
- `Json.Reader.string` — a string after its opening quote
- `Json.Reader.skipString` — the same without keeping it
- `Json.Reader.items`, `Json.Reader.members` — the parts of a list and of an object
-/

namespace Conform.Json.Reader

/-- The bytes between tokens: space, line feed, tabulator and carriage return. -/
def isBlank (b : UInt8) : Bool := b == 32 || b == 10 || b == 9 || b == 13

/-- Skips blanks and answers the byte that comes next. -/
def blank : Reader (Option UInt8) := fun c => (.ok (skip c).rest.head?, skip c)
where
  /-- The cursor past the blanks. -/
  skip (c : Cursor) : Cursor := go c.rest c.position
  /-- The cursor past the blanks at the front of some bytes. -/
  go : List UInt8 → Position → Cursor
    | [], p => ⟨[], p⟩
    | b :: rest, p => if isBlank b then go rest (p.past b) else ⟨b :: rest, p⟩

/-- Takes the given bytes, the rest of a literal. -/
def literal : List UInt8 → Reader Unit
  | [] => pure ()
  | b :: bs => do
    match ← next with
    | none => fail .unfinishedValue
    | some a => if a = b then literal bs else fail .expectedIdent

/-- The value of a hexadecimal digit. -/
def hexValue? (b : UInt8) : Option Nat :=
  let n := b.toNat
  if 48 ≤ n ∧ n ≤ 57 then some (n - 48)
  else if 65 ≤ n ∧ n ≤ 70 then some (n - 55)
  else if 97 ≤ n ∧ n ≤ 102 then some (n - 87)
  else none

/-- The code unit of four hexadecimal digits. -/
def hexUnit : Reader Nat := fun c =>
  match c.rest with
  | w :: x :: y :: z :: _ =>
    let c := c.next.next.next.next
    match hexValue? w, hexValue? x, hexValue? y, hexValue? z with
    | some w, some x, some y, some z => (.ok (((w * 16 + x) * 16 + y) * 16 + z), c)
    | _, _, _, _ => fail .invalidEscape c
  | _ => fail .unfinishedString c.next.next.next

/-- Whether a code unit is the first half of a pair. -/
def isLeadingSurrogate (n : Nat) : Bool := 0xD800 ≤ n && n ≤ 0xDBFF

/-- Whether a code unit is the second half of a pair. -/
def isTrailingSurrogate (n : Nat) : Bool := 0xDC00 ≤ n && n ≤ 0xDFFF

/-- Takes a byte that has to come next between the halves of a pair. -/
def surrogateLink (b : UInt8) : Reader Unit := do
  match ← peek with
  | none => fail .unfinishedString
  | some a =>
    advance
    if a = b then pure () else fail .unfinishedSurrogate

/-- The character of an escape by code, after its letter. -/
def codeEscape : Reader Char := do
  let unit ← hexUnit
  if isTrailingSurrogate unit then fail .loneSurrogate
  else if isLeadingSurrogate unit then
    surrogateLink 92
    surrogateLink 117
    let trail ← hexUnit
    if isTrailingSurrogate trail then
      return Char.ofNat ((unit - 0xD800) * 0x400 + (trail - 0xDC00) + 0x10000)
    else fail .loneSurrogate
  else return Char.ofNat unit

/-- The character that a one-letter escape stands for. -/
def letterEscape? (b : UInt8) : Option Char :=
  if b = 34 then some '"'
  else if b = 92 then some '\\'
  else if b = 47 then some '/'
  else if b = 98 then some '\x08'
  else if b = 102 then some '\x0c'
  else if b = 110 then some '\n'
  else if b = 114 then some '\r'
  else if b = 116 then some '\t'
  else none

/-- The character of an escape, after its backslash. -/
def escape : Reader Char := do
  match ← next with
  | none => fail .unfinishedString
  | some b =>
    match letterEscape? b with
    | some c => return c
    | none => if b = 117 then codeEscape else fail .invalidEscape

/-- The bytes that a string stands for, up to its closing quote, in reverse; `fuel` bounds the
    number of steps. -/
def stringBytes : Nat → List UInt8 → Reader (List UInt8)
  | 0, _ => fail .unfinishedString
  | fuel + 1, acc => do
    match ← next with
    | none => fail .unfinishedString
    | some b =>
      if b = 34 then return acc
      else if b = 92 then do
        let c ← escape
        stringBytes fuel ((String.utf8EncodeChar c).reverse ++ acc)
      else if b.toNat < 32 then fail .controlCharacter
      else stringBytes fuel (b :: acc)

/-- A string, after its opening quote. The bytes that it stands for have to be valid UTF-8; the
    place of a fault is counted back from the closing quote by those from the faulty one on. -/
def string : Reader String := do
  let bytes := (← stringBytes ((← remaining) + 1) []).reverse
  match Utf8.decode bytes with
  | .ok cs => return String.ofList cs
  | .error n =>
    let p ← position
    failAt ⟨p.line, p.column - (bytes.length - n)⟩ .invalidCodePoint

/-- Skips a string, after its opening quote. Neither its bytes nor its surrogates are examined, and
    a control character is complained about before it is taken. -/
def skipString : Nat → Reader Unit
  | 0 => fail .unfinishedString
  | fuel + 1 => do
    match ← peek with
    | none => fail .unfinishedString
    | some b =>
      if b.toNat < 32 then fail .controlCharacter
      else
        advance
        if b = 34 then return ()
        else if b = 92 then do
          match ← next with
          | none => fail .unfinishedString
          | some e =>
            if (letterEscape? e).isSome then skipString fuel
            else if e = 117 then do
              let _ ← hexUnit
              skipString fuel
            else fail .invalidEscape
        else skipString fuel

/-- Whether another item follows in a list. -/
def hasItem (first : Bool) : Reader Bool := do
  match ← blank with
  | none => failNext .unfinishedList
  | some b =>
    if b = 93 then return false
    else if first then return true
    else if b = 44 then
      advance
      match ← blank with
      | none => failNext .unfinishedValue
      | some b => if b = 93 then failNext .trailingComma else return true
    else failNext .expectedListCommaOrEnd

/-- Takes the end of a list. -/
def closeList : Reader Unit := do
  match ← blank with
  | none => failNext .unfinishedList
  | some b =>
    if b = 93 then advance
    else if b = 44 then
      advance
      match ← blank with
      | some b => if b = 93 then failNext .trailingComma else failNext .trailingCharacters
      | none => failNext .trailingCharacters
    else failNext .trailingCharacters

/-- Whether another member follows in an object, and its key. -/
def nextKey? (first : Bool) : Reader (Option String) := within .unknown do
  match ← blank with
  | none => failNext .unfinishedObject
  | some b =>
    if b = 125 then return none
    else if first then
      if b = 34 then key else failNext .keyMustBeString
    else if b = 44 then
      advance
      match ← blank with
      | none => failNext .unfinishedValue
      | some b =>
        if b = 34 then key
        else if b = 125 then failNext .trailingComma
        else failNext .keyMustBeString
    else failNext .expectedObjectCommaOrEnd
where
  /-- The key of a member, from its opening quote on. -/
  key : Reader (Option String) := do
    advance
    return some (← string)

/-- Takes the colon between a key and its value. -/
def colon : Reader Unit := do
  match ← blank with
  | none => failNext .unfinishedObject
  | some b => if b = 58 then advance else failNext .expectedColon

/-- Takes the end of an object. -/
def closeObject : Reader Unit := do
  match ← blank with
  | none => failNext .unfinishedObject
  | some b =>
    if b = 125 then advance
    else if b = 44 then failNext .trailingComma
    else failNext .trailingCharacters

/-- The items of a list up to its end, each read at its position by `item`; `fuel` bounds their
    number. -/
def items {α : Type} (item : Reader α) : Nat → Nat → Reader (List α)
  | 0, _ => failNext .unfinishedList
  | fuel + 1, i => do
    if ← hasItem (i == 0) then
      let a ← within (.index i) item
      let rest ← items item fuel (i + 1)
      return a :: rest
    else return []

/-- Folds over the members of an object up to its end: `member` is given each key and reads the
    colon and the value; `fuel` bounds their number. -/
def members {σ : Type} (member : σ → String → Reader σ) : Nat → Bool → σ → Reader σ
  | 0, _, _ => failNext .unfinishedObject
  | fuel + 1, first, state => do
    match ← nextKey? first with
    | none => return state
    | some key =>
      let state ← member state key
      members member fuel false state

/-- The value of a member, after its key. -/
def memberValue {α : Type} (key : String) (value : Reader α) : Reader α := do
  colon
  within (.key key) value

end Conform.Json.Reader
