import Conform.Json.Printer
import Conform.Log.Basic
import Conform.Text.Emphasis

/-!
# Log lines

A remark as one line: as text, or as a JSON object.

## Main definitions

- `Log.Style` — the two kinds of lines
- `Log.Record.line` — a remark as a line
-/

namespace Conform.Log

/-- How remarks are written. -/
inductive Style where
  /-- As text, colored or not. -/
  | text (colored : Bool)
  /-- As JSON objects. -/
  | json
deriving DecidableEq, Repr

/-- The color of a level. -/
def Level.emphasis : Level → Emphasis
  | error => .red
  | warn => .yellow
  | info => .green
  | debug => .blue
  | trace => .purple

/-- What a field holds, as text. -/
def FieldValue.shown : FieldValue → String
  | text s => s
  | count n => toString n

/-- What a field holds, as JSON. -/
def FieldValue.json : FieldValue → Json
  | text s => .str s
  | count n => .num (.natural n)

namespace Record

/-- The level in a line of text. With a color of its own it fills five columns. -/
def levelText (colored : Bool) (r : Record) : String :=
  if colored then
    let name := r.level.name
    r.level.emphasis.paint (String.ofList (List.replicate (5 - name.length) ' ') ++ name)
  else r.level.name

/-- A remark as text: its level, its target and its message, and then its fields. -/
def textLine (colored : Bool) (r : Record) : String :=
  let fields := r.fields.map fun (name, value) =>
    " " ++ Emphasis.slanted.paintIf colored name ++
      Emphasis.faint.paintIf colored "=" ++ value.shown
  r.levelText colored ++ " " ++
    Emphasis.faint.paintIf colored r.target ++ Emphasis.faint.paintIf colored ":" ++ " " ++
    r.message ++ String.join fields

/-- A remark as a JSON object, with the message as the first of its fields. -/
def json (r : Record) : Json :=
  .obj [("level", .str r.level.name),
    ("fields", .obj (("message", .str r.message) ::
      r.fields.map fun (name, value) => (name, value.json))),
    ("target", .str r.target)]

/-- A remark as a line. -/
def line (style : Style) (r : Record) : String :=
  match style with
  | .text colored => r.textLine colored
  | .json => r.json.compact

end Record

end Conform.Log
