import Conform.Json.Error
import Conform.Text.Utf8

/-!
# Readers

A reader takes bytes off the front of a text and knows the line and the column it has reached. A
complaint is placed either at the bytes taken so far or, when it is about the byte that comes next,
just past that byte. Some complaints leave their place open until the value around them has been
closed.

## Main definitions

- `Json.Cursor` — the unread bytes and the place reached
- `Json.Reader` — a reading that may stop at an issue; the cursor moves on either way
- `Json.Reader.within` — locates the issues of a part of a document
- `Json.Reader.settle` — places an issue whose place was left open
-/

namespace Conform.Json

/-- The unread bytes, and the place in the text where they start. -/
structure Cursor where
  /-- The bytes that have not been read. -/
  rest : List UInt8
  /-- The place reached. -/
  position : Position

/-- A complaint that may still lack its place in the text. -/
structure Issue where
  /-- The place in the document, from where the reading started. -/
  path : List Segment
  /-- What is wrong. -/
  complaint : Complaint
  /-- The place in the text, if it is settled. -/
  position : Option Position

/-- A reading of a part of a text. -/
def Reader (α : Type) : Type := Cursor → Except Issue α × Cursor

/-- The place just past one more byte. -/
def Position.past (p : Position) (b : UInt8) : Position :=
  if b = 10 then ⟨p.line + 1, 0⟩ else ⟨p.line, p.column + 1⟩

/-- The start of a text. -/
def Cursor.start (bytes : List UInt8) : Cursor := ⟨bytes, ⟨1, 0⟩⟩

/-- The cursor one byte on, or at the end of the text the cursor itself. -/
def Cursor.next (c : Cursor) : Cursor :=
  match c.rest with
  | [] => c
  | b :: rest => ⟨rest, c.position.past b⟩

namespace Reader

variable {α β : Type}

/-- Reads on with the result, or stops at an issue. -/
def bind (x : Reader α) (f : α → Reader β) : Reader β := fun c =>
  match x c with
  | (.ok a, c) => f a c
  | (.error issue, c) => (.error issue, c)

instance : Monad Reader where
  pure a := fun c => (.ok a, c)
  bind := bind

/-- Stops with a complaint at the bytes taken so far. -/
def fail (complaint : Complaint) : Reader α := fun c =>
  (.error ⟨[], complaint, some c.position⟩, c)

/-- Stops with a complaint about the byte that comes next. -/
def failNext (complaint : Complaint) : Reader α := fun c =>
  (.error ⟨[], complaint, some c.next.position⟩, c)

/-- Stops with a complaint at a given place. -/
def failAt (position : Position) (complaint : Complaint) : Reader α := fun c =>
  (.error ⟨[], complaint, some position⟩, c)

/-- Stops with a complaint whose place is settled later. -/
def failOpen (complaint : Complaint) : Reader α := fun c =>
  (.error ⟨[], complaint, none⟩, c)

/-- The next byte, if there is one. -/
def peek : Reader (Option UInt8) := fun c => (.ok c.rest.head?, c)

/-- The place reached. -/
def position : Reader Position := fun c => (.ok c.position, c)

/-- How many bytes are left. -/
def remaining : Reader Nat := fun c => (.ok c.rest.length, c)

/-- Takes the next byte, if there is one. -/
def advance : Reader Unit := fun c => (.ok (), c.next)

/-- Takes and answers the next byte, if there is one. -/
def next : Reader (Option UInt8) := do
  let b ← peek
  advance
  return b

/-- Locates the issues of a part of the document. -/
def within (segment : Segment) (x : Reader α) : Reader α := fun c =>
  match x c with
  | (.ok a, c) => (.ok a, c)
  | (.error issue, c) => (.error { issue with path := segment :: issue.path }, c)

/-- Places an issue whose place was left open at the bytes taken so far. -/
def settle (x : Reader α) : Reader α := fun c =>
  match x c with
  | (.ok a, c) => (.ok a, c)
  | (.error issue, c) =>
    (.error { issue with position := some (issue.position.getD c.position) }, c)

/-- Reads `body`, then `close` whatever came of it; the issue of `body` goes first. -/
def closedBy (close : Reader Unit) (body : Reader α) : Reader α := fun c =>
  match body c with
  | (.ok a, c) => (close.bind fun _ => pure a) c
  | (.error issue, c) => (.error issue, (close c).2)

/-- Runs a reader on a whole text. -/
def run (x : Reader α) (bytes : List UInt8) : Except PathError α :=
  match x (Cursor.start bytes) with
  | (.ok a, _) => .ok a
  | (.error issue, c) => .error ⟨issue.path, issue.complaint, issue.position.getD c.position⟩

end Reader

end Conform.Json
