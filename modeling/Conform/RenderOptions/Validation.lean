import Conform.RenderOptions.Descriptor

/-!
# Validating render options

A document is laid over a set of defaults key by key, and the result is checked against the
descriptor. Keys that are no option are kept and remarked upon, never refused.

## Main definitions

- `OptionsError` — why a document was refused
- `RenderOptions.mergeOver` — a document over a set of options
- `RenderOptions.validateComplete` — checks a document that spells out every option
- `RenderOptions.validate` — checks a document over the defaults
-/

namespace Conform

/-- Why a document of render options was refused. -/
inductive OptionsError where
  /-- An option has a value it cannot have. -/
  | invalidOption (report : Report)
  /-- An option is not there. -/
  | missingOption (report : Report)
  /-- No verdict was reached. -/
  | fault (fault : Fault)
deriving DecidableEq, Repr

namespace OptionsError

/-- Verdicts about options in place of verdicts about values. -/
def factory : ErrorFactory OptionsError := ⟨.invalidOption, .missingOption, .fault⟩

/-- The report of a verdict. -/
def report? : OptionsError → Option Report
  | invalidOption r | missingOption r => some r
  | fault _ => none

/-- The message of an error. -/
def message : OptionsError → String
  | invalidOption r =>
    "invalid render option `" ++ r.location ++ "`: expected " ++ r.expected ++ ", got " ++
      r.received.getD "nothing"
  | missingOption r => "missing render option `" ++ r.location ++ "`: expected " ++ r.expected
  | fault f => f.message

end OptionsError

namespace RenderOptions

/-- The keys of a document that are no option, in order. -/
def unknownKeys (document : Entries Value) : List PropertyKey :=
  document.keys.filter fun key => (fields.get? key).isNone

/-- A document laid over a set of options: the options first, in their order, then the document's
    other keys in theirs. A document that is no object is left as it is. -/
def mergeOver (document : Value) (defaults : RenderOptions) : Value :=
  match document with
  | .object overrides =>
    .object ((Entries.ofList defaults.entries).insertAll overrides.toList)
  | _ => document

/-- Checks a document that must spell out every option. Arrays and functions hold properties too,
    but they are no documents. -/
def validateComplete (va : Validator) (document : Value) : Eval OptionsError RenderOptions :=
  if document.isObject then
    view.resolve va OptionsError.factory document
  else
    Eval.fail (.invalidOption ⟨.root, "object", some document.received⟩)

/-- Checks a document over the defaults. -/
def validate (va : Validator) (document : Value) : Eval OptionsError RenderOptions :=
  validateComplete va (mergeOver document default)

end RenderOptions

end Conform
