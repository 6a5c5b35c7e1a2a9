import Conform.Command.Run
import Conform.Fixture.Suite

/-!
# The program

The program checks documents of render options. Under the name `conform-fixtures` it checks suites
of fixtures. Both run on the machine's files and write to its streams.
-/

namespace Conform

/-- The reason that the machine gives for a refusal. -/
def FileError.ofMachine (e : IO.Error) : FileError :=
  match e with
  | .noFileOrDirectory _ n text | .interrupted _ n text => ofNumber n.toNat text
  | .alreadyExists _ n text | .invalidArgument _ n text | .permissionDenied _ n text
  | .resourceExhausted _ n text | .inappropriateType _ n text | .noSuchThing _ n text =>
    ofNumber n.toNat text
  | .otherError n text | .resourceBusy n text | .resourceVanished n text
  | .unsupportedOperation n text | .hardwareFault n text | .unsatisfiedConstraints n text
  | .illegalOperation n text | .protocolError n text | .timeExpired n text =>
    ofNumber n.toNat text
  | .unexpectedEof => .other 0 "unexpected end of file"
  | .userError text => .other 0 text
where
  /-- The reason with a number. Some requests give the number with its sign turned, as a word. -/
  ofNumber (word : Nat) (text : String) : FileError :=
    let n := if word < Nat.pow 2 31 then word else Nat.pow 2 32 - word
    if n = 2 then .notFound
    else if n = 13 then .permissionDenied
    else if n = 17 then .alreadyExists
    else if n = 20 then .notADirectory
    else if n = 21 then .isADirectory
    else if n = 36 then .nameTooLong
    else .other n text

/-- Grants a request or gives the reason why not. -/
def FileAccess.grant {α : Type} (request : IO α) : IO (Except FileError α) := do
  match ← request.toBaseIO with
  | .ok a => return .ok a
  | .error e => return .error (.ofMachine e)

/-- What the machine tells about a file. Where a link leads is not told. -/
def FileKind.ofMachine? : IO.FS.FileType → Option FileKind
  | .dir => some .directory
  | .symlink => none
  | .file | .other => some .file

instance : FileAccess IO where
  read path := do
    FileAccess.grant do
      return (← IO.FS.readBinFile path.text).toList
  entries path := do
    FileAccess.grant do
      let directory : IO.FS.DirEntry := ⟨path.text, ""⟩
      (← directory.root.readDir).toList.mapM fun entry => do
        match ← entry.path.symlinkMetadata.toBaseIO with
        | .error _ => return ⟨entry.fileName, none⟩
        | .ok data => return ⟨entry.fileName, FileKind.ofMachine? data.type⟩
  kind? path := do
    let entry : IO.FS.DirEntry := ⟨path.text, ""⟩
    match ← entry.root.metadata.toBaseIO with
    | .error _ => return none
    | .ok data => return some (if data.type == .dir then .directory else .file)
  isThere path := do
    let entry : IO.FS.DirEntry := ⟨path.text, ""⟩
    return (← entry.root.symlinkMetadata.toBaseIO).toOption.isSome
  createDirectory path := FileAccess.grant (IO.FS.createDir path.text)
  write path bytes := FileAccess.grant (IO.FS.writeBinFile path.text ⟨bytes.toArray⟩)
  put stream text :=
    FileAccess.grant do
      let handle ← match stream with
        | .output => IO.getStdout
        | .errors => IO.getStderr
      handle.putStr text
      handle.flush

/-- The settings that the surroundings give. -/
def Command.Settings.current : IO Command.Settings := do
  return {
    logFilter := ← IO.getEnv "SHAPE_GUARD_LOG"
    fallbackFilter := ← IO.getEnv "RUST_LOG"
    logFormat := ← IO.getEnv "SHAPE_GUARD_LOG_FORMAT"
    noColor := ← IO.getEnv "NO_COLOR"
    color := ← IO.getEnv "CLICOLOR"
    forceColor := ← IO.getEnv "CLICOLOR_FORCE"
    isTerminal := ← (← IO.getStdout).isTty }

end Conform

/-- Runs the program on its arguments. -/
def main (arguments : List String) : IO UInt32 := do
  let settings ← Conform.Command.Settings.current
  let outcome ←
    if (← IO.appPath).fileName == some "conform-fixtures" then
      Conform.Fixture.Suite.run settings arguments
    else Conform.Command.run settings arguments
  return outcome.exitCode.toUInt32
