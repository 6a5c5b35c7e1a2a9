import Conform.Files.Access

/-!
# Files as data

A tree of directories with a working directory in it, and the requests for files as functions on it.
A path leads from the working directory, or from the root if it starts with a slash; at the root,
going up leads nowhere else. Names and paths are bounded in length: what is longer is refused, a
path at once and a name when the directory that is to hold it has been reached. There are no links.
Beside the tree are the streams, each of which takes every text or none.

## Main definitions

- `FileTree` — a file, or a directory with what is in it
- `Sink` — where the texts of a stream go
- `Disk` — a tree, the working directory and the streams
- `Disk.locate` — where a path leads
- `FileAccess (StateM Disk)` — requests as functions on a disk
-/

namespace Conform

/-- A file, or a directory with what is in it. -/
inductive FileTree where
  | file (bytes : List UInt8)
  | directory (entries : List (String × FileTree))

namespace FileTree

/-- The tree at the end of a row of names. -/
def at? : FileTree → List String → Option FileTree
  | t, [] => some t
  | file _, _ :: _ => none
  | directory entries, n :: ns => (entries.lookup n).bind fun t => t.at? ns

/-- Puts a tree under a name, in place if the name is there. -/
def insertEntry (name : String) (t : FileTree) : List (String × FileTree) → List (String × FileTree)
  | [] => [(name, t)]
  | (n, u) :: rest => if n = name then (n, t) :: rest else (n, u) :: insertEntry name t rest

/-- Puts a tree at the end of a row of names, making directories on the way. A file on the way gives
    way to a directory. -/
def insert : FileTree → List String → FileTree → FileTree
  | _, [], new => new
  | file _, n :: ns, new => directory [(n, insert (directory []) ns new)]
  | directory entries, n :: ns, new =>
    directory (insertEntry n (insert ((entries.lookup n).getD (directory [])) ns new) entries)

mutual

/-- Every file of a tree with the row of names that leads to it. -/
def files : FileTree → List (List String × List UInt8)
  | file bytes => [([], bytes)]
  | directory entries => filesOfEntries entries

/-- Every file below the entries of a directory. -/
def filesOfEntries : List (String × FileTree) → List (List String × List UInt8)
  | [] => []
  | (n, t) :: rest => (t.files.map fun (names, bytes) => (n :: names, bytes)) ++ filesOfEntries rest

end

/-- What the tree is. -/
def kind : FileTree → FileKind
  | file _ => .file
  | directory _ => .directory

end FileTree

/-- Where the texts of a stream go. -/
structure Sink where
  /-- What has been written. -/
  written : String := ""
  /-- Why nothing can be written, if that is so. -/
  refusal? : Option FileError := none

/-- Writes a text behind those that have been written. -/
def Sink.put (s : Sink) (text : String) : Except FileError Sink :=
  match s.refusal? with
  | some e => .error e
  | none => .ok { s with written := s.written ++ text }

/-- A tree of directories, the working directory in it, and the streams. -/
structure Disk where
  /-- The root directory. -/
  root : FileTree
  /-- The names that lead from the root to the working directory. -/
  working : List String
  /-- The output. -/
  output : Sink := {}
  /-- The error output. -/
  errors : Sink := {}

namespace Disk

/-- How many bytes a name in a directory may have. -/
def nameLimit : Nat := 255

/-- Refuses a text that has more bytes than it may have. -/
def ensureFits (limit : Nat) (text : String) : Except FileError Unit :=
  if text.utf8ByteSize ≤ limit then .ok () else .error .nameTooLong

/-- Refuses a path that is empty or too long, before anything is looked up. -/
def ensureUsable (path : FilePath) : Except FileError Unit :=
  if path.text = "" then .error .notFound else ensureFits FileAccess.pathLimit path.text

/-- The place one piece of a path further. Pieces lead on from directories only. -/
def step (d : Disk) (place : List String) (piece : String) : Except FileError (List String) :=
  match d.root.at? place with
  | none => .error .notFound
  | some (.file _) => .error .notADirectory
  | some (.directory entries) =>
    match FilePath.Part.ofPiece? piece with
    | some .up => .ok place.dropLast
    | some (.name n) => do
      ensureFits nameLimit n
      if (entries.lookup n).isSome then .ok (place ++ [n]) else .error .notFound
    | _ => .ok place

/-- The place where a row of pieces starts. -/
def start (d : Disk) : List String → List String
  | "" :: _ :: _ => []
  | _ => d.working

/-- The place where a path leads. -/
def locate (d : Disk) (path : FilePath) : Except FileError (List String) := do
  ensureUsable path
  path.pieces.foldlM d.step (d.start path.pieces)

/-- The tree where a path leads. -/
def find (d : Disk) (path : FilePath) : Except FileError FileTree :=
  match d.locate path with
  | .error e => .error e
  | .ok place =>
    match d.root.at? place with
    | some t => .ok t
    | none => .error .notFound

/-- The bytes of the file at a path. -/
def read (d : Disk) (path : FilePath) : Except FileError (List UInt8) :=
  match d.find path with
  | .ok (.file bytes) => .ok bytes
  | .ok (.directory _) => .error .isADirectory
  | .error e => .error e

/-- The entries of the directory at a path. What is stored under a text that is no name cannot be
    reached and is not listed. -/
def entries (d : Disk) (path : FilePath) : Except FileError (List DirectoryEntry) :=
  match d.find path with
  | .ok (.file _) => .error .notADirectory
  | .ok (.directory entries) =>
    .ok ((entries.filter fun e => FilePath.isName e.1).map fun e => ⟨e.1, some e.2.kind⟩)
  | .error e => .error e

/-- What there is at a path. -/
def kind? (d : Disk) (path : FilePath) : Option FileKind :=
  (d.find path).toOption.map FileTree.kind

/-- The pieces of a path without the empty ones that slashes at its end leave. -/
def trimmedPieces (path : FilePath) : List String :=
  (path.pieces.reverse.dropWhile (· == "")).reverse

/-- The directory that the last of some pieces is to be an entry of. -/
def directoryOf (d : Disk) (pieces : List String) : Except FileError (List String) := do
  let place ← pieces.dropLast.foldlM d.step (d.start pieces)
  match d.root.at? place with
  | some (.directory _) => .ok place
  | some (.file _) => .error .notADirectory
  | none => .error .notFound

/-- Makes a directory at a path where there is nothing yet. -/
def createDirectory (d : Disk) (path : FilePath) : Except FileError Disk := do
  ensureUsable path
  match (trimmedPieces path).getLast? with
  | none => .error .alreadyExists
  | some last =>
    let place ← d.directoryOf (trimmedPieces path)
    match FilePath.Part.ofPiece? last with
    | some (.name n) =>
      ensureFits nameLimit n
      if (d.root.at? (place ++ [n])).isSome then .error .alreadyExists
      else .ok { d with root := d.root.insert (place ++ [n]) (.directory []) }
    | _ => .error .alreadyExists

/-- Makes the file at a path or replaces what it holds. A path that ends in a slash is that of a
    directory, whether there is one or not. -/
def write (d : Disk) (path : FilePath) (bytes : List UInt8) : Except FileError Disk := do
  ensureUsable path
  match (trimmedPieces path).getLast? with
  | none => .error .isADirectory
  | some last =>
    let place ← d.directoryOf (trimmedPieces path)
    match FilePath.Part.ofPiece? last with
    | some (.name n) =>
      if trimmedPieces path ≠ path.pieces then .error .isADirectory
      else
        ensureFits nameLimit n
        match d.root.at? (place ++ [n]) with
        | some (.directory _) => .error .isADirectory
        | _ => .ok { d with root := d.root.insert (place ++ [n]) (.file bytes) }
    | _ => .error .isADirectory

/-- Keeps the disk that a request leads to, if it was granted. -/
def apply (request : Disk → Except FileError Disk) : StateM Disk (Except FileError Unit) := fun d =>
  match request d with
  | .ok d' => (.ok (), d')
  | .error e => (.error e, d)

/-- Writes a text to a stream. -/
def put (d : Disk) (text : String) : Stream → Except FileError Disk
  | .output => (d.output.put text).map fun output => { d with output }
  | .errors => (d.errors.put text).map fun errors => { d with errors }

instance : FileAccess (StateM Disk) where
  read path := fun d => (d.read path, d)
  entries path := fun d => (d.entries path, d)
  kind? path := fun d => (d.kind? path, d)
  isThere path := fun d => ((d.kind? path).isSome, d)
  createDirectory path := apply fun d => d.createDirectory path
  write path bytes := apply fun d => d.write path bytes
  put stream text := apply fun d => d.put text stream

end Disk

end Conform
