import Conform.Command.Arguments
import Conform.Files.Access
import Conform.Json.Pointer
import Conform.Json.Printer
import Conform.Log.Remarks
import Conform.Text.Emphasis

/-!
# Reports about files

What the check of one file came to, and how it is written: as a line of text or as a JSON object.

## Main definitions

- `Verdict` — what the check of a file came to
- `Verdict.ofBytes` — checks what a file holds
- `FileReport` — a verdict and the file that it is about
- `FileReport.line`, `FileReport.json` — a report as text and as JSON
-/

namespace Conform.Command

/-- What the check of a file came to. -/
inductive Verdict where
  /-- The document was accepted with these options. -/
  | accepted (options : RenderOptions)
  /-- The document was refused. -/
  | refused (error : OptionsError)
  /-- The pointer selects nothing in the document. -/
  | unselected (pointer : String)
  /-- The file could not be read. -/
  | unread (error : FileError)
  /-- The file holds no JSON document. -/
  | unparsed (error : Json.PathError)

namespace Verdict

/-- Checks what a file holds, and answers also with the remarks that were made. -/
def ofBytes (va : Validator) (file : String) (pointer : Option String) (bytes : List UInt8) :
    Verdict × List Log.Record :=
  match Document.read bytes pointer with
  | .error e => (unparsed e, [])
  | .ok none => (unselected (pointer.getD ""), [])
  | .ok (some document) =>
    let evaluation := RenderOptions.validate va document
    let remarks := RenderOptions.mergeRemarks document ++ evaluation.remarks
    match evaluation.outcome with
    | .ok options => (accepted options, remarks ++ [RenderOptions.acceptedRemark file options])
    | .error e => (refused e, remarks)

/-- Whether the document was accepted. -/
def isAccepted : Verdict → Bool
  | accepted _ => true
  | _ => false

/-- The kind of a failure. -/
def kind? : Verdict → Option String
  | accepted _ => none
  | refused (.invalidOption _) => some "invalid"
  | refused (.missingOption _) => some "missing"
  | refused (.fault _) => some "fault"
  | unselected _ => some "pointer"
  | unread _ | unparsed _ => some "load"

/-- The library's own report, if the document was refused with one. -/
def report? : Verdict → Option Report
  | refused e => e.report?
  | _ => none

/-- The message of a failure about a file. -/
def message? (file : String) : Verdict → Option String
  | accepted _ => none
  | refused e => some e.message
  | unselected pointer => some ("JSON pointer " ++ pointer ++ " selects nothing")
  | unread e => some ("failed to read source file " ++ file ++ ": " ++ e.message)
  | unparsed e => some ("failed to parse JSON source file " ++ file ++ ": " ++ e.fullMessage)

end Verdict

/-- A verdict and the file that it is about. -/
structure FileReport where
  /-- The path of the file. -/
  file : String
  /-- What the check came to. -/
  verdict : Verdict

namespace FileReport

/-- The message of a failure. -/
def message? (r : FileReport) : Option String := r.verdict.message? r.file

/-- A report as a line of text. -/
def line (colored : Bool) (r : FileReport) : String :=
  match r.message? with
  | none => Emphasis.green.paintIf colored "✓" ++ " " ++ r.file
  | some message =>
    Emphasis.red.paintIf colored "✗" ++ " " ++ Emphasis.strong.paintIf colored r.file ++ ": " ++
      message

/-- A member that is left out if there is nothing to say. -/
def member? (key : String) (value : Option String) : List (String × Json) :=
  (value.map fun s => (key, Json.str s)).toList

/-- A report as JSON. -/
def json (r : FileReport) : Json :=
  let report := r.verdict.report?
  .obj ([("file", .str r.file), ("ok", .bool r.verdict.isAccepted)] ++
    member? "kind" r.verdict.kind? ++
    member? "path" (report.map Report.pathText) ++
    member? "expected" (report.map Report.expected) ++
    member? "received" (report.bind Report.received) ++
    member? "message" r.message?)

/-- Reports as text, a line each, or as a JSON list. -/
def render (format : ReportFormat) (colored : Bool) (reports : List FileReport) : String :=
  match format with
  | .text => "\n".intercalate (reports.map (line colored))
  | .json => (Json.arr (reports.map json)).pretty

end FileReport

end Conform.Command
