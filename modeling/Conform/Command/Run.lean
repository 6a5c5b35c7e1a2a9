import Conform.Command.Description
import Conform.Command.FileReport
import Conform.Command.Help
import Conform.Command.Settings
import Conform.Files.Glob.Expansion

/-!
# Running the command

A run resolves its inputs first: if one of them cannot be resolved, nothing is read and no report is
written. Then every file is checked on its own, in the order of the inputs, and the reports are
written together.

A text that is written to a stream may be refused. Results, notices about the settings and error
messages have to be written: the run breaks down where one of them is refused, with an exit code
that stands for nothing else. Remarks in the log and the texts about how to use the command are only
offered.

## Main definitions

- `Outcome` — the exit code of a run, and the texts that it has written
- `put`, `offer` — writes a text that has to be written, or one that need not be
- `resolve` — the files that the inputs stand for
- `checkFile` — checks one file
- `deliver` — writes a report to the output or to a file
- `run` — runs the command on its arguments
-/

namespace Conform.Command

/-- What a run leaves behind, besides files. -/
structure Outcome where
  /-- The exit code. -/
  exitCode : Nat := 0
  /-- The text on the output. -/
  output : String := ""
  /-- The text on the error output. -/
  errors : String := ""
deriving DecidableEq, Repr

/-- Notes that a text has been written to a stream. -/
def Outcome.wrote (o : Outcome) (text : String) : Stream → Outcome
  | .output => { o with output := o.output ++ text }
  | .errors => { o with errors := o.errors ++ text }

/-- The exit code of a run that breaks down. -/
def breakdown : Nat := 101

/-- Why a run was broken off. -/
inductive RunError where
  /-- A pattern could not be expanded. -/
  | unexpanded (error : Glob.ExpansionError)
  /-- A pattern stands for no file. -/
  | unmatched (pattern : String)
  /-- The directory of the file to write to could not be made. -/
  | noDirectory (error : FileError)
  /-- The file to write to could not be written. -/
  | unwritten (path : String) (error : FileError)

/-- The message of an error. -/
def RunError.message : RunError → String
  | unexpanded e => "failed to resolve input file paths: " ++ e.message
  | unmatched pattern =>
    "failed to resolve input file paths: glob pattern matched no files: " ++ pattern
  | noDirectory e => e.message
  | unwritten path e => "failed to write " ++ path ++ ": " ++ e.message

/-- The line about an error. -/
def RunError.line (e : RunError) : String := "error: " ++ e.message ++ "\n"

/-- Whether an input is a pattern. -/
def isPattern (input : String) : Bool :=
  input.toList.any fun c => c == '*' || c == '?' || c == '[' || c == '\x7b'

/-- The line about a text that was refused. Where in the program that happened is left out. -/
def refusalLine (stream : Stream) (e : FileError) : String :=
  "failed printing to " ++ stream.name ++ ": " ++ e.message ++ "\n"

variable {m : Type → Type} [Monad m] [FileAccess m]

/-- Writes a text to a stream if the stream takes it. -/
def offer (stream : Stream) (text : String) (sofar : Outcome) : m Outcome := do
  match ← FileAccess.put stream text with
  | .ok () => return sofar.wrote text stream
  | .error _ => return sofar

/-- Writes a text to a stream. A run whose text is refused breaks down. -/
def put (stream : Stream) (text : String) (sofar : Outcome) : m (Except Outcome Outcome) := do
  match ← FileAccess.put stream text with
  | .ok () => return .ok (sofar.wrote text stream)
  | .error e => .error <$> offer .errors (refusalLine stream e) { sofar with exitCode := breakdown }

/-- Writes the last text of a run to a stream. -/
def putLast (stream : Stream) (text : String) (sofar : Outcome) : m Outcome := do
  match ← put stream text sofar with
  | .ok outcome | .error outcome => return outcome

/-- Writes texts to a stream, one after the other. -/
def putAll (stream : Stream) : List String → Outcome → m (Except Outcome Outcome)
  | [], sofar => return .ok sofar
  | text :: texts, sofar => do
    match ← put stream text sofar with
    | .error broken => return .error broken
    | .ok sofar => putAll stream texts sofar

/-- Offers texts to a stream, one after the other. -/
def offerAll (stream : Stream) : List String → Outcome → m Outcome
  | [], sofar => return sofar
  | text :: texts, sofar => do offerAll stream texts (← offer stream text sofar)

/-- Ends a run with an error message. -/
def breakOff (line : String) (sofar : Outcome) : m Outcome :=
  putLast .errors line { sofar with exitCode := 2 }

/-- The files that an input stands for. -/
def resolveInput (input : String) : m (Except RunError (List FilePath)) := do
  if isPattern input then
    match ← Glob.expand input with
    | .error e => return .error (.unexpanded e)
    | .ok [] => return .error (.unmatched input)
    | .ok paths => return .ok paths
  else return .ok [⟨input⟩]

/-- The files that the inputs stand for, in order. -/
def resolve : List String → m (Except RunError (List FilePath))
  | [] => return .ok []
  | input :: inputs => do
    match ← resolveInput input with
    | .error e => return .error e
    | .ok paths => return (paths ++ ·) <$> (← resolve inputs)

/-- Checks one file, and answers also with the remarks that were made. -/
def checkFile (va : Validator) (pointer : Option String) (path : FilePath) :
    m (FileReport × List Log.Record) := do
  match ← FileAccess.read path with
  | .error e => return (⟨path.text, .unread e⟩, [])
  | .ok bytes =>
    let (verdict, remarks) := Verdict.ofBytes va path.text pointer bytes
    return (⟨path.text, verdict⟩, remarks)

/-- Writes a text to a file whose directory is made if need be. -/
def save (out : String) (text : String) : m (Except RunError Unit) := do
  let path : FilePath := ⟨out⟩
  let directory ←
    match path.parent? with
    | some parent => FileAccess.createDirectories parent
    | none => pure (.ok ())
  match directory with
  | .error e => return .error (.noDirectory e)
  | .ok () =>
    match ← FileAccess.write path (Utf8.encode text) with
    | .error e => return .error (.unwritten out e)
    | .ok () => return .ok ()

/-- Ends a run with a report, which goes to the output or to a file. -/
def deliver (out : Option String) (text : String) (sofar : Outcome) : m Outcome := do
  match out with
  | none => putLast .output (text ++ "\n") sofar
  | some out =>
    match ← save out (text ++ "\n") with
    | .error e => breakOff e.line sofar
    | .ok () => return sofar

/-- Runs a request to check documents. -/
def check (settings : Settings) (request : CheckRequest) (sofar : Outcome) : m Outcome := do
  match ← resolve request.inputs with
  | .error e => breakOff e.line sofar
  | .ok paths =>
    let checks ← paths.mapM (checkFile { maxDepth := request.maxDepth } request.pointer)
    let reports := checks.map Prod.fst
    let sofar ← offerAll .errors (settings.log (checks.flatMap Prod.snd)) sofar
    deliver request.out (FileReport.render request.format settings.isColored reports)
      { sofar with exitCode := if reports.all fun r => r.verdict.isAccepted then 0 else 1 }

/-- Whether a request is only to be shown. -/
def Request.noOp : Request → Bool
  | options c => c.noOp
  | describe d => d.noOp

/-- Runs a request. -/
def Request.run (settings : Settings) (request : Request) (sofar : Outcome) : m Outcome :=
  if request.noOp then putLast .errors (request.inspection.pretty ++ "\n") sofar
  else
    match request with
    | options c => check settings c sofar
    | describe d => deliver none (Description.render d.format settings.isColored) sofar

/-- The line about wrong arguments. -/
def Misuse.line (misuse : Misuse) : String :=
  "error: " ++ misuse.message ++
    "\n\nUsage: shape-guard <COMMAND>\n\nFor more information, try '--help'.\n"

/-- Runs the command on its arguments. -/
def run (settings : Settings) (arguments : List String) : m Outcome := do
  match ← putAll .errors settings.notices {} with
  | .error broken => return broken
  | .ok sofar =>
    match Invocation.read arguments with
    | .ok (.help page) => offer .output page.text sofar
    | .ok .empty => offer .errors overview { sofar with exitCode := 2 }
    | .ok (.run request) => request.run settings sofar
    | .error misuse => offer .errors misuse.line { sofar with exitCode := 2 }

end Conform.Command
