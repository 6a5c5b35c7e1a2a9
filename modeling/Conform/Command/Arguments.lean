import Conform.Text.Count
import Conform.Text.Inspection

/-!
# Arguments of the command

The command checks documents of render options or describes the options. Arguments are read from
left to right; the first that is wrong, or that asks for help, settles the matter.

## Main definitions

- `CheckRequest`, `DescribeRequest`, `Request` — what the command is asked to do
- `Switch`, `Occurrence` — what an argument list is made of
- `Misuse` — why arguments are wrong
- `Invocation.read` — reads the arguments
-/

namespace Conform.Command

/-- How results are written. -/
inductive ReportFormat where
  | text | json
deriving DecidableEq, Repr

/-- A request to check documents. -/
structure CheckRequest where
  /-- The pointer to the part of each document that is checked. -/
  pointer : Option String
  /-- The paths and patterns of the documents. -/
  inputs : List String
  /-- The deepest level that is still evaluated. -/
  maxDepth : Nat
  /-- How the results are written. -/
  format : ReportFormat
  /-- The file that the results are written to, if not to the output. -/
  out : Option String
  /-- Whether to show the request only. -/
  noOp : Bool
deriving DecidableEq, Repr

/-- A request to describe the options. -/
structure DescribeRequest where
  /-- How the description is written. -/
  format : ReportFormat
  /-- Whether to show the request only. -/
  noOp : Bool
deriving DecidableEq, Repr

/-- What the command is asked to do. -/
inductive Request where
  | options (request : CheckRequest)
  | describe (request : DescribeRequest)
deriving DecidableEq, Repr

/-- Why arguments are wrong. -/
inductive Misuse where
  /-- An argument has no meaning at its place. -/
  | unexpected (argument : String)
  /-- A switch lacks its value. -/
  | missingValue (switch : String)
  /-- A switch cannot have this value. -/
  | invalidValue (switch value : String)
  /-- A switch must not be repeated. -/
  | repeated (switch : String)
  /-- A switch must be there. -/
  | missing (switch : String)
  /-- There is no such subcommand. -/
  | unknownCommand (name : String)
deriving DecidableEq, Repr

/-- The message about wrong arguments. -/
def Misuse.message : Misuse → String
  | unexpected argument => "unexpected argument '" ++ argument ++ "' found"
  | missingValue switch => "a value is required for '" ++ switch ++ "' but none was supplied"
  | invalidValue switch value => "invalid value '" ++ value ++ "' for '" ++ switch ++ "'"
  | repeated switch => "the argument '" ++ switch ++ "' cannot be used multiple times"
  | missing switch => "the following required arguments were not provided:\n  " ++ switch
  | unknownCommand name => "unrecognized subcommand '" ++ name ++ "'"

/-- How many values a switch takes. -/
inductive Arity where
  | none | one | some
deriving DecidableEq, Repr

/-- A named argument. -/
structure Switch where
  /-- The name after two dashes. -/
  name : String
  /-- The letter after one dash, if there is one. -/
  letter : Option Char
  /-- How many values it takes. -/
  arity : Arity
deriving DecidableEq, Repr

/-- A switch that was given, with its values. -/
structure Occurrence where
  /-- The name of the switch. -/
  name : String
  /-- The values in order. -/
  values : List String
deriving DecidableEq, Repr

namespace Switch

/-- Asks for help. -/
def help : Switch := ⟨"help", some 'h', .none⟩

/-- Selects the documents. -/
def input : Switch := ⟨"input", some 'i', .some⟩

/-- Selects a part of each document. -/
def jsonPointer : Switch := ⟨"json-pointer", none, .one⟩

/-- Limits the depth. -/
def maxDepth : Switch := ⟨"max-depth", none, .one⟩

/-- Selects how results are written. -/
def report : Switch := ⟨"report", none, .one⟩

/-- Selects where results are written. -/
def out : Switch := ⟨"out", some 'o', .one⟩

/-- Shows the request only. -/
def noOp : Switch := ⟨"no-op", none, .none⟩

/-- Whether an argument can be the value of a switch: it does not start with a dash, or is nothing
    but a dash. -/
def isValue (argument : String) : Bool := argument.toList.head? ≠ some '-' || argument == "-"

/-- The occurrence of a switch with the values collected for it, last value first. -/
def complete (s : Switch) (reversed : List String) : Except Misuse Occurrence :=
  if reversed.isEmpty then .error (.missingValue s.name) else .ok ⟨s.name, reversed.reverse⟩

/-- The occurrence of the switch that still collects values, if there is one. -/
def flush : Option (Switch × List String) → List (Except Misuse Occurrence)
  | some (s, reversed) => [s.complete reversed]
  | none => []

/-- What an argument with one dash stands for: the occurrences that are complete, and the switch
    that goes on to collect values. Letters that take no value may be followed by further letters;
    the value of a letter may follow it at once or after an equals sign. -/
def ofLetters (known : List Switch) (argument : String) :
    List Char → List (Except Misuse Occurrence) × Option Switch
  | [] => ([], none)
  | c :: cs =>
    match known.find? fun s => s.letter == some c with
    | none => ([.error (.unexpected argument)], none)
    | some s =>
      if s.arity = .none then
        let (occurrences, collecting) := ofLetters known argument cs
        (.ok ⟨s.name, []⟩ :: occurrences, collecting)
      else
        match cs with
        | [] => ([], some s)
        | '=' :: value => ([.ok ⟨s.name, [String.ofList value]⟩], none)
        | value => ([.ok ⟨s.name, [String.ofList value]⟩], none)

/-- What an argument with two dashes stands for. A value may follow after an equals sign. -/
def ofName (known : List Switch) (argument : String) (cs : List Char) :
    List (Except Misuse Occurrence) × Option Switch :=
  let name := cs.takeWhile (· ≠ '=')
  let attached := cs.drop name.length
  match known.find? fun s => s.name == String.ofList name with
  | none => ([.error (.unexpected argument)], none)
  | some s =>
    match attached with
    | [] => if s.arity = .none then ([.ok ⟨s.name, []⟩], none) else ([], some s)
    | _ :: value =>
      if s.arity = .none then ([.error (.unexpected argument)], none)
      else ([.ok ⟨s.name, [String.ofList value]⟩], none)

/-- The occurrences in an argument list, given the switch that still collects values and what it
    has collected, last value first. After two lone dashes nothing is a switch any more. -/
def occurrences (known : List Switch) :
    Option (Switch × List String) → List String → List (Except Misuse Occurrence)
  | collecting, [] => flush collecting
  | collecting, argument :: rest =>
    if isValue argument then
      match collecting with
      | none => [.error (.unexpected argument)]
      | some (s, reversed) =>
        if s.arity = .some ∨ reversed = [] then
          occurrences known (some (s, argument :: reversed)) rest
        else [s.complete reversed, .error (.unexpected argument)]
    else
      match argument.toList with
      | '-' :: '-' :: [] => flush collecting ++ rest.map fun a => .error (.unexpected a)
      | '-' :: '-' :: cs =>
        let (complete, next) := ofName known argument cs
        flush collecting ++ complete ++ occurrences known (next.map fun s => (s, [])) rest
      | _ :: cs =>
        let (complete, next) := ofLetters known argument cs
        flush collecting ++ complete ++ occurrences known (next.map fun s => (s, [])) rest
      | [] => []

end Switch

/-- Why reading stopped early. -/
inductive Stop where
  | help
  | misuse (misuse : Misuse)
deriving DecidableEq, Repr

/-- The switches that were given, as far as they have been read. -/
structure Given where
  pointer : Option String := none
  inputs : Option (List String) := none
  maxDepth : Option Nat := none
  format : Option ReportFormat := none
  out : Option String := none
  noOp : Option Bool := none

/-- Notes a switch that must be given once only. -/
def once {α : Type} (s : Switch) (sofar : Option α) (value : Option α) (text : String) :
    Except Stop (Option α) :=
  if sofar.isSome then .error (.misuse (.repeated s.name))
  else
    match value with
    | some a => .ok (some a)
    | none => .error (.misuse (.invalidValue s.name text))

/-- The format that a name selects. -/
def ReportFormat.named? (name : String) : Option ReportFormat :=
  if name = "text" then some .text else if name = "json" then some .json else none

/-- Notes one switch. A path to write to must not be empty. -/
def Given.note (g : Given) (o : Occurrence) : Except Stop Given := do
  let value := o.values.headD ""
  if o.name = Switch.help.name then .error .help
  else if o.name = Switch.input.name then
    return { g with inputs := some (g.inputs.getD [] ++ o.values) }
  else if o.name = Switch.jsonPointer.name then
    return { g with pointer := ← once .jsonPointer g.pointer (some value) value }
  else if o.name = Switch.maxDepth.name then
    return { g with maxDepth := ← once .maxDepth g.maxDepth (Count.ofText? value) value }
  else if o.name = Switch.report.name then
    return { g with format := ← once .report g.format (ReportFormat.named? value) value }
  else if o.name = Switch.out.name then
    return { g with out := ← once .out g.out (if value = "" then none else some value) value }
  else
    return { g with noOp := ← once .noOp g.noOp (some true) value }

/-- Notes every switch in an argument list. -/
def Given.ofArguments (known : List Switch) (arguments : List String) : Except Stop Given :=
  (Switch.occurrences known none arguments).foldlM (fun g o =>
    match o with
    | .ok o => g.note o
    | .error misuse => .error (.misuse misuse)) {}

/-- Reads the arguments of a request to check documents. -/
def CheckRequest.read (arguments : List String) : Except Stop CheckRequest := do
  let known := [Switch.help, .input, .jsonPointer, .maxDepth, .report, .out, .noOp]
  let g ← Given.ofArguments known arguments
  match g.inputs with
  | none => .error (.misuse (.missing Switch.input.name))
  | some inputs =>
    return { pointer := g.pointer, inputs, maxDepth := g.maxDepth.getD 256,
             format := g.format.getD .text, out := g.out, noOp := g.noOp.getD false }

/-- Reads the arguments of a request to describe the options. -/
def DescribeRequest.read (arguments : List String) : Except Stop DescribeRequest := do
  let g ← Given.ofArguments [.help, .report, .noOp] arguments
  return { format := g.format.getD .text, noOp := g.noOp.getD false }

/-- The pages of help. -/
inductive HelpPage where
  | overview | options | describe | help
deriving DecidableEq, Repr

/-- What the arguments ask for. -/
inductive Invocation where
  /-- A page of help. -/
  | help (page : HelpPage)
  /-- Nothing, so the overview is due. -/
  | empty
  /-- A request. -/
  | run (request : Request)
deriving DecidableEq, Repr

namespace Invocation

/-- A request, or the page of help that was asked for in its place. -/
def ofReading {α : Type} (page : HelpPage) (request : α → Request) :
    Except Stop α → Except Misuse Invocation
  | .ok a => .ok (run (request a))
  | .error .help => .ok (help page)
  | .error (.misuse misuse) => .error misuse

/-- The page of help about a subcommand. -/
def helpOn : List String → Except Misuse Invocation
  | [] => .ok (help .overview)
  | name :: rest =>
    match rest, name with
    | [], "options" => .ok (help .options)
    | [], "describe" => .ok (help .describe)
    | [], "help" => .ok (help .help)
    | inner :: _, "options" | inner :: _, "describe" | inner :: _, "help" =>
      .error (.unknownCommand inner)
    | _, _ => .error (.unknownCommand name)

/-- Reads the arguments of the command. -/
def read : List String → Except Misuse Invocation
  | [] => .ok empty
  | first :: rest =>
    if first = "options" then ofReading .options .options (CheckRequest.read rest)
    else if first = "describe" then ofReading .describe .describe (DescribeRequest.read rest)
    else if first = "help" then helpOn rest
    else if first = "--" && rest.isEmpty then .ok empty
    else if first = "--help" || "-h".isPrefixOf first then .ok (help .overview)
    else if Switch.isValue first then .error (.unknownCommand first)
    else .error (.unexpected first)

end Invocation

/-- A format for inspection. -/
def ReportFormat.inspection : ReportFormat → Inspection
  | text => .word "Text"
  | json => .word "Json"

/-- A request for inspection. -/
def Request.inspection (r : Request) : Inspection :=
  .record "CommandLineInterface" [("cmd", match r with
    | options c => .wrapped "Options" (.record "OptionsCheck"
        [("input_settings", .record "InputSettings"
          [("json_pointer", .optional .quoted c.pointer),
           ("input", .list (c.inputs.map .quoted))]),
         ("max_depth", .count c.maxDepth),
         ("report", c.format.inspection),
         ("out", .optional .quoted c.out),
         ("no_op", .truth c.noOp)])
    | describe d => .wrapped "Describe" (.record "DescribeOut"
        [("report", d.format.inspection), ("no_op", .truth d.noOp)]))]

end Conform.Command
