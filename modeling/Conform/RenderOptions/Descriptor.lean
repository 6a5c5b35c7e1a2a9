import Conform.RenderOptions.Basic
import Conform.View

/-!
# The render-options descriptor

The one descriptor that documents of render options are checked against, and the view that extracts
the options from a conforming document. Formats have rules across elements: each is a known name,
`svg` stands alone, and `ps` and `eps` are not supported.

## Main definitions

- `RenderOptions.fields` — the options with their descriptors, in order
- `RenderOptions.descriptor` — the descriptor
- `RenderOptions.view` — the typed view
- `RenderOptions.describe` — the options with their expectations as text
-/

namespace Conform

/-- A choice of quoted names, as text. -/
def choiceText (names : List String) : String :=
  " | ".intercalate (names.map fun name => "'" ++ name ++ "'")

/-- The strategies as a choice. -/
def Strategy.choices : String := choiceText (Strategy.all.map Strategy.name)

/-- The formats as a choice. -/
def OutputFormat.choices : String := choiceText (OutputFormat.all.map OutputFormat.name)

/-- The strategy a value names. -/
def Strategy.ofValue? (v : Value) : Option Strategy := v.asString?.bind Strategy.named?

/-- The format a value names. -/
def OutputFormat.ofValue? (v : Value) : Option OutputFormat := v.asString?.bind OutputFormat.named?

namespace RenderOptions

/-- Accepts the name of a strategy. -/
def strategyGuard : Guard Descriptor where
  name := some "strategy"
  expecting := some Strategy.choices
  body v path :=
    match Strategy.ofValue? v with
    | some _ => .accept
    | none => .fail (.unexpected path Strategy.choices v)

/-- Accepts the name of a format. -/
def formatGuard : Guard Descriptor where
  name := some "format"
  expecting := some OutputFormat.choices
  body v path :=
    match OutputFormat.ofValue? v with
    | some _ => .accept
    | none => .fail (.unexpected path OutputFormat.choices v)

/-- The rule against which a list of known formats offends first, as an expectation. -/
def formatsComplaint? (formats : List OutputFormat) : Option String :=
  if formats.contains .svg && formats.length > 1 then
    some "svg on its own (it cannot be generated alongside other formats)"
  else if formats.contains .ps then
    some ("supported formats (" ++ OutputFormat.ps.name ++ " is not supported)")
  else if formats.contains .eps then
    some ("supported formats (" ++ OutputFormat.eps.name ++ " is not supported)")
  else none

/-- Accepts an array of known formats that keeps the rules across elements. -/
def formatsGuard : Guard Descriptor where
  name := some "formats"
  expecting := some ("array<" ++ OutputFormat.choices ++ ">")
  body v path :=
    .require none v (.inline (.arrayOf (.guard formatGuard)))
      (match formatsComplaint? ((v.asArray?.getD []).filterMap OutputFormat.ofValue?) with
        | some complaint => .fail (.unexpected path complaint v)
        | none => .accept)

/-- The options with their descriptors, in order. -/
def fields : Entries Descriptor :=
  Entries.ofList
    [(.string "strategy", .guard strategyGuard),
     (.string "binary", .union [.primitive .string, .literal .useEnvBinary]),
     (.string "version", .primitive .string),
     (.string "formats", .guard formatsGuard),
     (.string "crop", .primitive .boolean),
     (.string "dpi", .union [.primitive .number, .primitive .null]),
     (.string "midi", .primitive .boolean),
     (.string "wrap", .primitive .boolean)]

/-- What a document of render options must conform to. -/
def descriptor : Descriptor := .shape fields

/-- The binary a value stands for. -/
def binaryOfValue? : Value → Option Binary
  | .symbol s => if s = .useEnvBinary then some .useEnv else none
  | .string p => some (.path p)
  | _ => none

/-- The resolution a value stands for. -/
def dpiOfValue? : Value → Option (Option Number)
  | .null => some none
  | .number n => some (some n)
  | _ => none

/-- The options a document spells out in full. -/
def ofValue? (v : Value) : Option RenderOptions := do
  let binary ← (← v.get? (.string "binary")) |> binaryOfValue?
  let formats ← (← (← v.get? (.string "formats")).asArray?).mapM OutputFormat.ofValue?
  let dpi ← (← v.get? (.string "dpi")) |> dpiOfValue?
  let strategy ← (← v.get? (.string "strategy")) |> Strategy.ofValue?
  let version ← (← v.get? (.string "version")).asString?
  let crop ← (← v.get? (.string "crop")).asBool?
  let midi ← (← v.get? (.string "midi")).asBool?
  let wrap ← (← v.get? (.string "wrap")).asBool?
  return { strategy, binary, version, formats, crop, dpi, midi, wrap }

/-- The typed view of a document of render options. -/
def view : View RenderOptions := ⟨descriptor, ofValue?⟩

/-- The options with their expectations as text, in order. -/
def describe : List (String × String) :=
  fields.toList.map fun (key, d) => ((Path.root.child key).render, d.render)

end RenderOptions

end Conform
