import Conform.Files.Access
import Conform.Files.Glob.Basic

/-!
# Expanding glob patterns

The paths that a pattern stands for, found by descending from the working directory, or from the
root for a pattern that starts with a slash. The pattern is taken part by part. A part without
wildcards is followed without looking into the directory; for any other part the entries of the
directory are tried in alphabetical order. What a directory tells about its entries is believed: an
entry that is told to be a directory is taken for one, even if it turns out that it cannot be read.

## Main definitions

- `Glob.Part`, `Glob.parts` — the parts of a pattern between its slashes
- `Glob.Expansion` — paths found, or why the search stopped
- `Glob.Place` — a place that a search has come to
- `Glob.search` — follows the parts of a pattern
- `Glob.expand` — the paths that a pattern stands for

## Design notes

`**` descends as deep as the directories go. The descent is given the number of levels it may go
down: every level makes the path longer, and no path that is longer than `FileAccess.pathLimit` can
be listed.
-/

namespace Conform.Glob

/-- A part of a pattern between slashes. -/
inductive Part where
  /-- A name without wildcards. -/
  | literal (name : String)
  /-- Names with wildcards. -/
  | wild (tokens : List Token)
  /-- Any directories. -/
  | anyDirectories
deriving DecidableEq, Repr

/-- Why a pattern could not be expanded. -/
inductive ExpansionError where
  /-- The pattern cannot be read. -/
  | pattern (error : PatternError)
  /-- A directory on the way cannot be read. -/
  | unreadable (path : FilePath) (error : FileError)
deriving DecidableEq, Repr

/-- The message of an error. -/
def ExpansionError.message : ExpansionError → String
  | pattern e => e.message
  | unreadable path e =>
    "attempting to read `" ++ path.text ++ "` resulted in an error: " ++ e.message

/-- The character that a token is, if it is a character. -/
def Token.char? : Token → Option Char
  | char c => some c
  | _ => none

/-- The part that some tokens form. -/
def Part.ofTokens (tokens : List Token) : Part :=
  if tokens = [.anyDirectories] then anyDirectories
  else
    match tokens.mapM Token.char? with
    | some cs => literal (String.ofList cs)
    | none => wild tokens

/-- The parts with one in place of several that stand for any directories in a row. -/
def collapse : List Part → List Part
  | [] => []
  | .anyDirectories :: .anyDirectories :: rest => collapse (.anyDirectories :: rest)
  | part :: rest => part :: collapse rest

/-- The parts of a pattern after the slash that it may start with. An empty part at the end is
    dropped. -/
def parts (pattern : String) : Except PatternError (List Part) := do
  let pieces := Separated.splitText '/' pattern
  let pieces := if pieces.head? = some "" then pieces.tail else pieces
  let pieces := if pieces.getLast? = some "" then pieces.dropLast else pieces
  collapse <$> pieces.mapM fun piece => Part.ofTokens <$> tokens piece

/-- Whether a part stands for an entry of this name. -/
def Part.covers (name : String) : Part → Bool
  | literal n => n == name
  | wild tokens => Glob.covers tokens name.toList
  | anyDirectories => false

/-- The names of the directory itself and of the one around it, in reverse, if wildcards may stand
    for them: only those that start with a dot may. -/
def dots (tokens : List Token) : List String :=
  if tokens.head? = some (.char '.') then ["..", "."] else []

/-- Paths found in order, or why the search stopped. -/
abbrev Expansion := Except ExpansionError (List FilePath)

/-- A place that a search has come to. -/
structure Place where
  /-- The path of the place. -/
  path : FilePath
  /-- Whether the place is taken for a directory. -/
  isDirectory : Bool
deriving DecidableEq, Repr

/-- More levels than lie on any path that can be listed. -/
def levels : Nat := FileAccess.pathLimit + 2

variable {m : Type → Type} [Monad m] [FileAccess m]

/-- The place at a path. What is told about it beforehand is taken for granted. -/
def Place.of (path : FilePath) (kind? : Option FileKind) : m Place :=
  match kind? with
  | some kind => return ⟨path, kind == .directory⟩
  | none => return ⟨path, ← FileAccess.isDirectory path⟩

/-- Runs searches one after the other and collects what they find, up to the first that stops. -/
def collect {α : Type} (search : α → m Expansion) : List α → m Expansion
  | [] => return .ok []
  | a :: as => do
    match ← search a with
    | .error e => return .error e
    | .ok found => return (found ++ ·) <$> (← collect search as)

/-- The path of a name in a directory. Names in the working directory stand alone. -/
def child (directory : FilePath) (name : String) : FilePath :=
  if directory.parts = [.here] then ⟨name⟩ else directory.join name

/-- The entries of a directory with their paths in alphabetical order, after the given dots. -/
def offers (directory : FilePath) (dots : List String) (entries : List DirectoryEntry) :
    List (FilePath × DirectoryEntry) :=
  dots.map (fun name => (directory.join name, ⟨name, none⟩)) ++
    (entries.mergeSort fun a b => !(b.name < a.name)).map fun e => (child directory e.name, e)

/-- What is found from the entries of a directory. Nothing is found from anything else. -/
def fromEntries (dots : List String) (found : String → Place → m Expansion) (here : Place) :
    m Expansion := do
  if !here.isDirectory then return .ok []
  else
    match ← FileAccess.entries here.path with
    | .error e => return .error (.unreadable here.path e)
    | .ok entries =>
      collect (fun (path, e) => do found e.name (← Place.of path e.kind?))
        (offers here.path dots entries)

/-- What a search finds if a condition holds. -/
def given (condition : Bool) (search : m Expansion) : m Expansion :=
  if condition then search else return .ok []

/-- What is found from everything in a directory, down to so many levels. -/
def descend (found : String → Place → m Expansion) : Nat → Place → m Expansion
  | 0, _ => return .ok []
  | levels + 1, here =>
    fromEntries [] (fun name place => do
      let own ← found name place
      let below ← given place.isDirectory (descend found levels place)
      return do return (← own) ++ (← below)) here

/-- Whether a place has an entry of this name. Dots are entries of every directory. -/
def has (here : Place) (name : String) : m Bool :=
  if name = "." ∨ name = ".." then return here.isDirectory
  else FileAccess.isThere (child here.path name)

/-- The paths that some parts stand for, seen from a place. With `onlyDirectories` a file does not
    count. -/
def search (onlyDirectories : Bool) : List Part → Place → m Expansion
  | [], here => return .ok (if onlyDirectories && !here.isDirectory then [] else [here.path])
  | .literal name :: rest, here => do
    let next ← Place.of (child here.path name) none
    given (← has here name) (search onlyDirectories rest next)
  | .wild tokens :: rest, here =>
    fromEntries (dots tokens) (fun name place =>
      given (covers tokens name.toList) (search onlyDirectories rest place)) here
  | [.anyDirectories], here =>
    descend (fun _ place => return .ok (if place.isDirectory then [place.path] else [])) levels here
  | .anyDirectories :: next :: rest, here =>
    descend (fun name place => given (next.covers name) (search onlyDirectories rest place))
      levels here

/-- The paths that a pattern stands for. A pattern that ends in a slash stands for directories
    only. -/
def expand (pattern : String) : m Expansion := do
  match tokens pattern, parts pattern with
  | .error e, _ => return .error (.pattern e)
  | _, .error e => return .error (.pattern e)
  | .ok _, .ok parts =>
    let isRooted := pattern.toList.head? = some '/'
    let onlyDirectories := pattern.toList.getLast? = some '/'
    search onlyDirectories parts (← Place.of ⟨if isRooted then "/" else "."⟩ none)

end Conform.Glob
