import Conform.Fixture.Basic
import Conform.RenderOptions.Validation
import Conform.Text.Regex.Search

/-!
# Checking fixtures

A document is run through both modes of evaluation. The modes have to agree with each other, and
what they come to has to be what the fixture expects.

## Main definitions

- `Fixture.Observation` — what assert mode came to
- `Fixture.observe` — runs a fixture in both modes
- `Fixture.Mismatch` — why a fixture fails
- `Fixture.agreement` — whether the two modes agree
- `Fixture.check` — checks a fixture
-/

namespace Conform.Fixture

/-- What assert mode came to. -/
inductive Observation where
  | ok
  | invalid (path message : String)
  | missing (path message : String)
  | fault (message : String)
deriving DecidableEq, Repr

namespace Observation

/-- An observation for inspection. -/
def inspection : Observation → Inspection
  | ok => .word "Ok"
  | invalid path message => .record "Invalid" [("path", .quoted path), ("message", .quoted message)]
  | missing path message => .record "Missing" [("path", .quoted path), ("message", .quoted message)]
  | fault message => .wrapped "Fault" (.quoted message)

/-- What the check of a value came to. -/
def ofCheck {α : Type} : Except Failure α → Observation
  | .ok _ => ok
  | .error (.invalidType r) => invalid r.pathText r.message
  | .error (.missingProperty r) => missing r.pathText r.message
  | .error (.fault f) => fault f.message

/-- What the check of a document of render options came to. -/
def ofOptions {α : Type} : Except OptionsError α → Observation
  | .ok _ => ok
  | .error (.invalidOption r) => invalid r.pathText (OptionsError.invalidOption r).message
  | .error (.missingOption r) => missing r.pathText (OptionsError.missingOption r).message
  | .error (.fault f) => fault f.message

end Observation

/-- Why a fixture fails. -/
inductive Mismatch where
  /-- Its descriptor cannot be built. -/
  | unbuildable (error : DescriptorError)
  /-- Assert mode found no verdict where predicate mode found one. -/
  | faultInAssertOnly (message : String) (verdict : Bool)
  /-- Predicate mode found no verdict where assert mode found one. -/
  | faultInPredicateOnly (observed : Observation)
  /-- The modes found different verdicts. -/
  | verdictsDiffer (verdict : Bool) (observed : Observation)
  /-- The outcome is at another path. -/
  | otherPath (expected observed message : String)
  /-- No text can be searched for the expected message. -/
  | badPattern (pattern : String) (refusal : Regex.Refusal)
  /-- The message is another. -/
  | otherMessage (message pattern : String)
  /-- The outcome is another. -/
  | otherOutcome (expected : Expectation) (observed : Observation)

/-- The message of a mismatch. -/
def Mismatch.message : Mismatch → String
  | unbuildable e => "building fixture descriptor: " ++ e.message
  | faultInAssertOnly message verdict =>
    "assert mode faulted (" ++ message ++ ") but predicate mode answered " ++
      (Inspection.truth verdict).compact
  | faultInPredicateOnly observed =>
    "predicate mode faulted but assert mode produced " ++ observed.inspection.compact
  | verdictsDiffer verdict observed =>
    "modes disagree: predicate " ++ (Inspection.truth verdict).compact ++ ", assert " ++
      observed.inspection.compact
  | otherPath expected observed message =>
    "expected path `" ++ expected ++ "`, got `" ++ observed ++ "` (" ++ message ++ ")"
  | badPattern pattern e =>
    "bad message pattern " ++ Inspected.quote pattern ++ ": " ++ e.message pattern
  | otherMessage message pattern =>
    "message " ++ Inspected.quote message ++ " does not match /" ++ pattern ++ "/"
  | otherOutcome expected observed =>
    "expected " ++ expected.inspection.compact ++ ", got " ++ observed.inspection.compact

/-- The validator of a fixture. -/
def validator (f : Fixture) : Validator :=
  match f.maxDepth with
  | some limit => { maxDepth := limit }
  | none => {}

/-- Runs a fixture in both modes: what assert mode came to, and the verdict of predicate mode if it
    found one. -/
def observe (f : Fixture) : Except DescriptorError (Observation × Option Bool) :=
  let document := Value.ofJson f.document
  match f.target with
  | .options mergeDefaults =>
    let document :=
      if mergeDefaults then RenderOptions.mergeOver document RenderOptions.default else document
    .ok (.ofOptions (RenderOptions.validateComplete f.validator document).outcome,
      (f.validator.accepts document RenderOptions.descriptor).outcome.toOption)
  | .descriptor spec =>
    spec.build.map fun d =>
      (.ofCheck (f.validator.assert document d).outcome,
        (f.validator.accepts document d).outcome.toOption)

/-- Whether the two modes agree: both find no verdict, or both the same. -/
def agreement : Observation → Option Bool → Except Mismatch Unit
  | .fault _, none => .ok ()
  | .fault message, some verdict => .error (.faultInAssertOnly message verdict)
  | observed, none => .error (.faultInPredicateOnly observed)
  | observed, some verdict =>
    if verdict = decide (observed = .ok) then .ok () else .error (.verdictsDiffer verdict observed)

/-- Whether a message is as expected. -/
def matchMessage (pattern : Option String) (message : String) : Except Mismatch Unit :=
  match pattern with
  | none => .ok ()
  | some pattern =>
    match Regex.prepare pattern with
    | .error refusal => .error (.badPattern pattern refusal)
    | .ok r => if r.occursIn message then .ok () else .error (.otherMessage message pattern)

/-- Whether an outcome at a path is as expected. -/
def matchPlace (path : String) (pattern : Option String) (observed message : String) :
    Except Mismatch Unit :=
  if path = observed then matchMessage pattern message
  else .error (.otherPath path observed message)

/-- Whether an outcome is as expected. -/
def Expectation.compare : Expectation → Observation → Except Mismatch Unit
  | ok, .ok => .ok ()
  | invalid path pattern, .invalid observed message => matchPlace path pattern observed message
  | missing path pattern, .missing observed message => matchPlace path pattern observed message
  | fault pattern, .fault message => matchMessage pattern message
  | expected, observed => .error (.otherOutcome expected observed)

/-- Checks a fixture. -/
def check (f : Fixture) : Except Mismatch Unit :=
  match f.observe with
  | .error e => .error (.unbuildable e)
  | .ok (observed, verdict) =>
    match agreement observed verdict with
    | .error mismatch => .error mismatch
    | .ok () => f.expect.compare observed

end Conform.Fixture
