import Conform.Number.Layout
import Conform.RenderOptions.Basic
import Conform.Text.Inspection

/-!
# Render options for inspection

Render options written out in full, as log lines show them.
-/

namespace Conform

/-- A strategy by its word. -/
def Strategy.word : Strategy → String
  | imgSvg => "ImgSvg"
  | imgPng => "ImgPng"
  | inlineSvg => "InlineSvg"

/-- A format by its word. -/
def OutputFormat.word : OutputFormat → String
  | eps => "Eps"
  | jpeg => "Jpeg"
  | midi => "Midi"
  | oga => "Oga"
  | opus => "Opus"
  | pdf => "Pdf"
  | png => "Png"
  | ps => "Ps"
  | svg => "Svg"
  | wav => "Wav"

/-- A renderer for inspection. -/
def Binary.inspection : Binary → Inspection
  | useEnv => .word "UseEnv"
  | path p => .wrapped "Path" (.quoted p)

/-- Render options for inspection. -/
def RenderOptions.inspection (o : RenderOptions) : Inspection :=
  .record "RenderOptions"
    [("strategy", .word o.strategy.word),
     ("binary", o.binary.inspection),
     ("version", .quoted o.version),
     ("formats", .list (o.formats.map fun f => .word f.word)),
     ("crop", .truth o.crop),
     ("dpi", .optional (fun x => .word x.structuralText) o.dpi),
     ("midi", .truth o.midi),
     ("wrap", .truth o.wrap)]

end Conform
