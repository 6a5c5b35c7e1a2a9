import Conform.Value.Basic

/-!
# Render options

How a score is rendered: the way it is embedded, the renderer to call, and what to produce.

## Main definitions

- `Strategy`, `OutputFormat`, `Binary` — the domains of single options
- `RenderOptions` — a full set of options
- `RenderOptions.default` — the defaults
- `RenderOptions.toValue` — the options as an object, in the order of the descriptor
-/

namespace Conform

/-- How a rendered score is embedded. -/
inductive Strategy where
  | imgSvg | imgPng | inlineSvg
deriving DecidableEq, Repr

namespace Strategy

/-- Every strategy. -/
def all : List Strategy := [imgSvg, imgPng, inlineSvg]

/-- The name of a strategy in a document. -/
def name : Strategy → String
  | imgSvg => "img-svg"
  | imgPng => "img-png"
  | inlineSvg => "inline-svg"

/-- The strategy with a given name. -/
def named? (name : String) : Option Strategy := all.find? fun s => s.name == name

end Strategy

/-- A format the renderer can be asked for. -/
inductive OutputFormat where
  | eps | jpeg | midi | oga | opus | pdf | png | ps | svg | wav
deriving DecidableEq, Repr

namespace OutputFormat

/-- Every format. -/
def all : List OutputFormat := [eps, jpeg, midi, oga, opus, pdf, png, ps, svg, wav]

/-- The name of a format in a document. -/
def name : OutputFormat → String
  | eps => "eps"
  | jpeg => "jpeg"
  | midi => "midi"
  | oga => "oga"
  | opus => "opus"
  | pdf => "pdf"
  | png => "png"
  | ps => "ps"
  | svg => "svg"
  | wav => "wav"

/-- The format with a given name. -/
def named? (name : String) : Option OutputFormat := all.find? fun f => f.name == name

end OutputFormat

/-- The symbol that stands for calling the renderer through the environment. -/
def Symbol.useEnvBinary : Symbol := ⟨0, some "USE_ENV_BINARY"⟩

/-- The renderer to call. -/
inductive Binary where
  /-- The one found through the environment. -/
  | useEnv
  /-- The one at this path. -/
  | path (path : String)
deriving DecidableEq, Repr

/-- A full set of render options. -/
structure RenderOptions where
  /-- How the score is embedded. -/
  strategy : Strategy
  /-- The renderer to call. -/
  binary : Binary
  /-- The language version written when wrapping. -/
  version : String
  /-- What to produce. -/
  formats : List OutputFormat
  /-- Whether to crop the result. -/
  crop : Bool
  /-- The resolution; with none the renderer picks its own. -/
  dpi : Option Number
  /-- Whether to produce sound. -/
  midi : Bool
  /-- Whether to wrap the score. -/
  wrap : Bool
deriving DecidableEq, Repr

namespace RenderOptions

/-- The defaults. -/
def default : RenderOptions where
  strategy := .inlineSvg
  binary := .useEnv
  version := "2.22"
  formats := [.svg]
  crop := true
  dpi := some (Number.ofNat 72)
  midi := true
  wrap := true

end RenderOptions

/-- The binary as a value. -/
def Binary.toValue : Binary → Value
  | useEnv => .symbol .useEnvBinary
  | path p => .string p

/-- The names of formats as a value. -/
def OutputFormat.listToValue (formats : List OutputFormat) : Value :=
  .array (formats.map fun f => .string f.name)

/-- A resolution as a value. -/
def RenderOptions.dpiToValue : Option Number → Value
  | some n => .number n
  | none => .null

namespace RenderOptions

/-- The eight options as keyed values, in the order of the descriptor. -/
def entries (o : RenderOptions) : List (PropertyKey × Value) :=
  [(.string "strategy", .string o.strategy.name),
   (.string "binary", o.binary.toValue),
   (.string "version", .string o.version),
   (.string "formats", OutputFormat.listToValue o.formats),
   (.string "crop", .bool o.crop),
   (.string "dpi", dpiToValue o.dpi),
   (.string "midi", .bool o.midi),
   (.string "wrap", .bool o.wrap)]

/-- The options as an object, in the order of the descriptor. -/
def toValue (o : RenderOptions) : Value := .object (Entries.ofList o.entries)

end RenderOptions

end Conform
