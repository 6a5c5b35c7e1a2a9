import Conform.Log.Filter
import Conform.Log.Line

/-!
# Settings

What the surroundings of a run say about its output: whether texts are set off by color, and which
remarks are written to the log and how.

## Main definitions

- `Settings` — the settings as they are given
- `Settings.isColored` — whether results are colored
- `Settings.notices` — what is said about the settings themselves
- `Settings.log` — the lines of the log
-/

namespace Conform.Command

/-- The settings of a run. -/
structure Settings where
  /-- The filter of the log. -/
  logFilter : Option String := none
  /-- The filter of the log if there is no other. -/
  fallbackFilter : Option String := none
  /-- The format of the log. -/
  logFormat : Option String := none
  /-- Set to have no color. -/
  noColor : Option String := none
  /-- Whether color is wanted on a terminal; everything but `0` wants it. -/
  color : Option String := none
  /-- Whether color is wanted everywhere; everything but `0` wants it. -/
  forceColor : Option String := none
  /-- Whether results go to a terminal. -/
  isTerminal : Bool := false

namespace Settings

/-- Whether results are colored. Wanting color everywhere beats wanting none. -/
def isColored (s : Settings) : Bool :=
  s.forceColor.any (· ≠ "0") || (s.noColor.isNone && s.color.all (· ≠ "0") && s.isTerminal)

/-- The style of log lines. -/
def logStyle (s : Settings) : Log.Style :=
  if (s.logFormat.getD "").map Char.toLower = "json" then .json
  else .text ((s.noColor.getD "").isEmpty)

/-- The filter of the log and what it ignores. Without a filter nothing is logged. -/
def filter? (s : Settings) : Option (Log.Filter × List String) :=
  (s.logFilter.or s.fallbackFilter).map Log.Filter.read

/-- A line about every part of the filter that is ignored, with its line break. -/
def notices (s : Settings) : List String :=
  match s.filter? with
  | none => []
  | some (_, ignored) => ignored.map fun line => line ++ "\n"

/-- The lines of the log about some remarks, with their line breaks. -/
def log (s : Settings) (remarks : List Log.Record) : List String :=
  match s.filter? with
  | none => []
  | some (filter, _) =>
    (remarks.filter filter.shows).map fun r => Log.Record.line s.logStyle r ++ "\n"

end Settings

end Conform.Command
