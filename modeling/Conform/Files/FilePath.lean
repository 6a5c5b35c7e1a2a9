import Conform.Text.Separated

/-!
# File paths

A file path is a text. Cut at its slashes it is a row of pieces; read as directions it is a row of
parts, where empty pieces and dots say nothing, apart from a slash or a dot at the front.

## Main definitions

- `FilePath` — a path as written
- `FilePath.pieces`, `FilePath.parts` — the path as pieces and as directions
- `FilePath.isName` — whether a text can be the name of an entry of a directory
- `FilePath.fileName?`, `FilePath.extension?`, `FilePath.parent?` — what a path says about a file
- `FilePath.join` — a path one name further
- `FilePath.before` — the order of paths by their parts
-/

namespace Conform

/-- A file path as written. -/
structure FilePath where
  /-- The path as text. -/
  text : String
deriving DecidableEq, Repr

namespace FilePath

/-- Whether a text can be the name of an entry of a directory. -/
def isName (text : String) : Bool :=
  text ≠ "" && text ≠ "." && text ≠ ".." && !text.toList.contains '/'

/-- A direction in a file path. -/
inductive Part where
  /-- Start at the root. -/
  | root
  /-- Stay. -/
  | here
  /-- Go up. -/
  | up
  /-- Go down to the entry of this name. -/
  | name (name : String)
deriving DecidableEq, Repr

/-- The pieces of a path between its slashes, as written. -/
def pieces (p : FilePath) : List String := Separated.splitText '/' p.text

/-- The direction of a piece, if it gives one. -/
def Part.ofPiece? (piece : String) : Option Part :=
  if piece = "" ∨ piece = "." then none
  else if piece = ".." then some .up
  else some (.name piece)

/-- The directions that a path gives. -/
def parts (p : FilePath) : List Part :=
  match p.pieces with
  | [] => []
  | first :: rest =>
    let others := rest.filterMap Part.ofPiece?
    if first = "" ∧ rest ≠ [] then .root :: others
    else if first = "." then .here :: others
    else (Part.ofPiece? first).toList ++ others

/-- A direction as a piece. -/
def Part.piece : Part → String
  | root => ""
  | here => "."
  | up => ".."
  | name n => n

/-- The path that gives these directions. -/
def ofParts (parts : List Part) : FilePath :=
  if parts = [.root] then ⟨"/"⟩ else ⟨"/".intercalate (parts.map Part.piece)⟩

/-- The name that a path ends in. -/
def fileName? (p : FilePath) : Option String :=
  match p.parts.getLast? with
  | some (.name n) => some n
  | _ => none

/-- What follows the last dot of the name that a path ends in. A dot at the front of the name does
    not count. -/
def extension? (p : FilePath) : Option String := do
  let reversed := (← p.fileName?).toList.reverse
  let stem := reversed.dropWhile (· ≠ '.')
  if stem.length ≤ 1 then none else some (String.ofList (reversed.takeWhile (· ≠ '.')).reverse)

/-- The path without its last direction, or `none` if it is empty or the root. -/
def parent? (p : FilePath) : Option FilePath :=
  match p.parts.getLast? with
  | none | some .root => none
  | some _ => some (ofParts p.parts.dropLast)

/-- The path one piece further. -/
def join (p : FilePath) (piece : String) : FilePath :=
  if p.text = "" ∨ p.text.toList.getLast? = some '/' then ⟨p.text ++ piece⟩
  else ⟨p.text ++ "/" ++ piece⟩

/-- Where a direction stands among the kinds of directions. -/
def Part.rank : Part → Nat
  | root => 0
  | here => 1
  | up => 2
  | name _ => 3

/-- Whether one direction comes before another: by kind, and among names by code points. -/
def Part.before (a b : Part) : Bool :=
  match a, b with
  | .name m, .name n => m < n
  | _, _ => a.rank < b.rank

/-- Whether one row of directions comes before another: at the first difference, or as its
    beginning. -/
def partsBefore : List Part → List Part → Bool
  | _, [] => false
  | [], _ :: _ => true
  | a :: as, b :: bs => a.before b || (a == b && partsBefore as bs)

/-- Whether one path comes before another. Paths that give the same directions come in no order. -/
def before (p q : FilePath) : Bool := partsBefore p.parts q.parts

end FilePath

end Conform
