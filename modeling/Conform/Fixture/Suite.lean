import Conform.Command.Run
import Conform.Fixture.Check
import Conform.Fixture.Reading

/-!
# Suites of fixtures

A suite is the JSON files of some directories, in the order of their paths. Its fixtures are checked
one after the other, with a line about each as soon as it has been checked; a file that cannot be
read breaks the suite off.

## Main definitions

- `Suite.files` — the files of some directories
- `Suite.Tally` — how many fixtures passed and failed
- `Suite.run` — checks every fixture
-/

namespace Conform.Fixture.Suite

/-- Why a suite was broken off. -/
inductive SuiteError where
  /-- A directory cannot be read. -/
  | directory (path : FilePath) (error : FileError)
  /-- A file cannot be read. -/
  | file (path : FilePath) (error : FileError)
  /-- A file holds no fixtures. -/
  | fixtures (path : FilePath) (error : Json.PathError)

/-- The message of an error. -/
def SuiteError.message : SuiteError → String
  | directory path e => "reading fixture dir " ++ path.text ++ ": " ++ e.message
  | file path e => "reading " ++ path.text ++ ": " ++ e.message
  | fixtures path e => "decoding " ++ path.text ++ ": " ++ e.fullMessage

/-- The line about an error. -/
def SuiteError.line (e : SuiteError) : String := "error: " ++ e.message ++ "\n"

/-- How many fixtures passed and failed so far. -/
structure Tally where
  /-- How many fixtures passed. -/
  passed : Nat := 0
  /-- How many fixtures failed. -/
  failed : Nat := 0
deriving DecidableEq, Repr

namespace Tally

/-- Counts a fixture by what its check came to. -/
def note (t : Tally) : Except Mismatch Unit → Tally
  | .ok () => { t with passed := t.passed + 1 }
  | .error _ => { t with failed := t.failed + 1 }

/-- The line about how many fixtures passed and failed. -/
def summary (t : Tally) : String :=
  toString t.passed ++ " passed, " ++ toString t.failed ++ " failed\n"

end Tally

/-- The line about the fixture of a file by what its check came to. -/
def line (colored : Bool) (label : String) (f : Fixture) : Except Mismatch Unit → String
  | .ok () => Emphasis.green.paintIf colored "✓" ++ " " ++ label ++ " :: " ++ f.name ++ "\n"
  | .error mismatch =>
    Emphasis.red.paintIf colored "✗" ++ " " ++ label ++ " :: " ++
      Emphasis.strong.paintIf colored f.name ++ ": " ++ mismatch.message ++ "\n"

variable {m : Type → Type} [Monad m] [FileAccess m]

/-- The paths of the JSON files in some directories, in the order of the directories. -/
def unsortedFiles : List FilePath → m (Except SuiteError (List FilePath))
  | [] => return .ok []
  | directory :: directories => do
    match ← FileAccess.entries directory with
    | .error e => return .error (.directory directory e)
    | .ok entries =>
      let paths := (entries.map fun e => directory.join e.name).filter fun path =>
        path.extension? == some "json"
      return (paths ++ ·) <$> (← unsortedFiles directories)

/-- The paths of the JSON files in some directories, in order. -/
def files (directories : List FilePath) : m (Except SuiteError (List FilePath)) := do
  return (← unsortedFiles directories).map fun paths => paths.mergeSort fun p q => !q.before p

/-- Checks fixtures of a file one after the other. -/
def checkAll (colored : Bool) (label : String) :
    List Fixture → Tally → Command.Outcome → m (Except Command.Outcome (Tally × Command.Outcome))
  | [], t, sofar => return .ok (t, sofar)
  | f :: fs, t, sofar => do
    match ← Command.put .output (line colored label f f.check) sofar with
    | .error broken => return .error broken
    | .ok sofar => checkAll colored label fs (t.note f.check) sofar

/-- Checks the fixtures of some files, up to the first file that cannot be read, and ends the
    run. -/
def checkFiles (colored : Bool) : List FilePath → Tally → Command.Outcome → m Command.Outcome
  | [], t, sofar =>
    Command.putLast .output t.summary { sofar with exitCode := if t.failed = 0 then 0 else 1 }
  | path :: paths, t, sofar => do
    match ← FileAccess.read path with
    | .error e => Command.breakOff (SuiteError.file path e).line sofar
    | .ok bytes =>
      match Fixture.readAll bytes with
      | .error e => Command.breakOff (SuiteError.fixtures path e).line sofar
      | .ok fixtures =>
        match ← checkAll colored (path.fileName?.getD "") fixtures t sofar with
        | .error broken => return broken
        | .ok (t, sofar) => checkFiles colored paths t sofar

/-- Where fixtures are if no directory is given. -/
def usualDirectory : FilePath := ⟨"fixtures"⟩

/-- Checks every fixture in the directories that the arguments give. -/
def run (settings : Command.Settings) (arguments : List String) : m Command.Outcome := do
  let directories := if arguments.isEmpty then [usualDirectory] else arguments.map FilePath.mk
  match ← files directories with
  | .error e => Command.breakOff e.line {}
  | .ok paths => checkFiles settings.isColored paths {} {}

end Conform.Fixture.Suite
