import Conform.Command.Arguments

/-!
# Pages of help

What the command says about itself.
-/

namespace Conform.Command

/-- The overview of the command. -/
def overview : String :=
  "validate render-options documents against the shared options descriptor\n\n" ++
  "Usage: shape-guard <COMMAND>\n\n" ++
  "Commands:\n" ++
  "  options   merge each document over the defaults and validate it\n" ++
  "  describe  print every option key with the shape it expects\n" ++
  "  help      Print this message or the help of the given subcommand(s)\n\n" ++
  "Options:\n" ++
  "  -h, --help  Print help\n"

/-- The text of a page. -/
def HelpPage.text : HelpPage → String
  | overview => Command.overview
  | options =>
    "merge each document over the defaults and validate it\n\n" ++
    "Usage: shape-guard options [OPTIONS] --input <INPUT>...\n\n" ++
    "Options:\n" ++
    "      --json-pointer <JSON_POINTER>\n" ++
    "          JSON Pointer to select a subnode in each document (e.g. /render/options)\n" ++
    "  -i, --input <INPUT>...\n" ++
    "          One or more inputs. May be literal paths or quoted glob patterns\n" ++
    "      --max-depth <MAX_DEPTH>\n" ++
    "          deepest nesting the validator descends into [default: 256]\n" ++
    "      --report <REPORT>\n" ++
    "          output style [default: text] [possible values: text, json]\n" ++
    "  -o, --out <OUT>\n" ++
    "          output file (stdout if omitted)\n" ++
    "      --no-op\n" ++
    "          debugging\n" ++
    "  -h, --help\n" ++
    "          Print help\n"
  | describe =>
    "print every option key with the shape it expects\n\n" ++
    "Usage: shape-guard describe [OPTIONS]\n\n" ++
    "Options:\n" ++
    "      --report <REPORT>  output style [default: text] [possible values: text, json]\n" ++
    "      --no-op            debugging\n" ++
    "  -h, --help             Print help\n"
  | help =>
    "Print this message or the help of the given subcommand(s)\n\n" ++
    "Usage: shape-guard help [COMMAND]...\n\n" ++
    "Arguments:\n" ++
    "  [COMMAND]...  Print help for the subcommand(s)\n"

end Conform.Command
