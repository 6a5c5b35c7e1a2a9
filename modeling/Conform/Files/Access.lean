import Conform.Files.FilePath

/-!
# Access to files

What the commands ask of the files around them, and of the streams that they write to. They are
written against this interface, so that they run on the machine's own files as well as on files that
are given as data. Every request may be refused, that to write to a stream too.

## Main definitions

- `FileError` — why a request was refused
- `FileKind` — what there is at a path
- `DirectoryEntry` — what a directory tells about an entry
- `Stream` — where texts go that are written to no file
- `FileAccess` — the requests
- `FileAccess.createDirectories` — makes a directory and those that it lies in
-/

namespace Conform

/-- Why a request for a file was refused. -/
inductive FileError where
  | notFound
  | permissionDenied
  | alreadyExists
  | notADirectory
  | isADirectory
  | nameTooLong
  /-- Any other reason, by its number and its text. -/
  | other (number : Nat) (text : String)
deriving DecidableEq, Repr

/-- The message of an error, with its number. -/
def FileError.message : FileError → String
  | notFound => "No such file or directory (os error 2)"
  | permissionDenied => "Permission denied (os error 13)"
  | alreadyExists => "File exists (os error 17)"
  | notADirectory => "Not a directory (os error 20)"
  | isADirectory => "Is a directory (os error 21)"
  | nameTooLong => "File name too long (os error 36)"
  | other number text => text ++ " (os error " ++ toString number ++ ")"

/-- What there is at a path. -/
inductive FileKind where
  | file | directory
deriving DecidableEq, Repr

/-- An entry of a directory. -/
structure DirectoryEntry where
  /-- The name in the directory. -/
  name : String
  /-- What the directory tells about what is there. It does not tell where a link leads. -/
  kind? : Option FileKind
deriving DecidableEq, Repr

/-- The streams of a run. -/
inductive Stream where
  | output | errors
deriving DecidableEq, Repr

/-- The name of a stream. -/
def Stream.name : Stream → String
  | output => "stdout"
  | errors => "stderr"

/-- Requests for files, and for texts to be written to a stream. -/
class FileAccess (m : Type → Type) where
  /-- The bytes of a file. -/
  read : FilePath → m (Except FileError (List UInt8))
  /-- The entries of a directory, in no particular order. -/
  entries : FilePath → m (Except FileError (List DirectoryEntry))
  /-- What there is at a path, or where a link there leads, if there is anything. -/
  kind? : FilePath → m (Option FileKind)
  /-- Whether there is anything at a path. A link is there even if it leads nowhere. -/
  isThere : FilePath → m Bool
  /-- Makes a directory. -/
  createDirectory : FilePath → m (Except FileError Unit)
  /-- Makes a file or replaces what it holds. -/
  write : FilePath → List UInt8 → m (Except FileError Unit)
  /-- Writes a text to a stream. -/
  put : Stream → String → m (Except FileError Unit)

namespace FileAccess

/-- How many bytes a path may have. -/
def pathLimit : Nat := 4095

variable {m : Type → Type} [Monad m] [FileAccess m]

/-- Whether there is a directory at a path. -/
def isDirectory (path : FilePath) : m Bool := return (← kind? path) == some .directory

/-- Makes a directory where there may be one already. -/
def ensureDirectory (path : FilePath) : m (Except FileError Unit) := do
  match ← createDirectory path with
  | .ok () => return .ok ()
  | .error e => return if ← isDirectory path then .ok () else .error e

/-- Makes a directory and those that it lies in, as far as they are not there. -/
def createDirectories (path : FilePath) : m (Except FileError Unit) :=
  go path.parts.reverse
where
  /-- Makes the directory that is reached by the given directions, last direction first. -/
  go : List FilePath.Part → m (Except FileError Unit)
    | [] => return .ok ()
    | last :: outer => do
      let path := FilePath.ofParts (last :: outer).reverse
      match ← ensureDirectory path with
      | .error .notFound =>
        match ← go outer with
        | .ok () => ensureDirectory path
        | .error e => return .error e
      | outcome => return outcome

end FileAccess

end Conform
