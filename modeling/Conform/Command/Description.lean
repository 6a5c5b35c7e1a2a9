import Conform.Command.Arguments
import Conform.Json.Printer
import Conform.RenderOptions.Descriptor
import Conform.Text.Emphasis
import Conform.Value.Received

/-!
# Descriptions of the options

The options with what they expect and what they are by default, as an aligned table or as JSON.
-/

namespace Conform.Command.Description

/-- A text with blanks behind it up to a width in characters. -/
def padded (width : Nat) (s : String) : String :=
  s ++ String.ofList (List.replicate (width - s.length) ' ')

/-- What an option is by default, as text. -/
def defaultText (key : String) : String :=
  match RenderOptions.default.toValue.get? (.string key) with
  | some v => v.received
  | none => ""

/-- The line about one option. -/
def line (colored : Bool) (width : Nat) (key expected : String) : String :=
  Emphasis.strong.paintIf colored (padded width key) ++ "  " ++ expected ++ "  " ++
    Emphasis.faint.paintIf colored ("(default " ++ defaultText key ++ ")")

/-- The table of the options. -/
def table (colored : Bool) : String :=
  let width := (RenderOptions.describe.map fun (key, _) => key.utf8ByteSize).foldl max 0
  let lines := RenderOptions.describe.map fun (key, expected) => line colored width key expected
  "\n".intercalate lines

/-- The options as JSON. -/
def json : Json :=
  .arr (RenderOptions.describe.map fun (key, expected) =>
    .obj [("key", .str key), ("expected", .str expected)])

/-- The description in a format. -/
def render (format : ReportFormat) (colored : Bool) : String :=
  match format with
  | .text => table colored
  | .json => json.pretty

end Conform.Command.Description
