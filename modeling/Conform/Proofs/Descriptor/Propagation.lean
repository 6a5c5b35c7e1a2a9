import Conform.Evaluation.Modes
import Conform.Proofs.Descriptor.Structure

/-!
# Guards that hand on faults

A guard that asks about a descriptor may be told that there is no verdict. Guards that hand on
faults end in that very fault and ask for nothing more. What they make of a verdict is up to them:
they may turn a failure about the value into a yes, ask again, or raise a fault of their own.

## Main definitions

- `Program.EndsIn` — a program ends in a fault without a further request about a descriptor
- `Program.HandsOn` — a program hands on the faults it is told of
- `Guard.HandsOn` — a guard does, on every value and at every path
- `Validator.HandsOn` — so does every guard that the evaluation of a descriptor can meet

## Design notes

A program can ask about descriptors that are given in place, and their guards are met as well, so
`Program.HandsOn` speaks of them too. Descriptors known by name may ask for each other in circles;
they are required to behave once, by `Validator.HandsOn`. The parameter `own` says which faults a
guard may raise of its own.
-/

namespace Conform

namespace Program

/-- The program ends in a fault without a further request about a descriptor. -/
def EndsIn {δ : Type} (fault : Fault) : Program δ → Prop
  | answer outcome => outcome = .error (.fault fault)
  | note _ next => next.EndsIn fault
  | knows _ next => ∀ isKnown, (next isKnown).EndsIn fault
  | check _ _ _ _ => False
  | conforms _ _ _ => False

/-- The program ends in every fault it is told of, and so do the guards of the descriptors it asks
    about in place. Faults of its own have the property `own`. -/
inductive HandsOn (own : Fault → Prop) : Program Descriptor → Prop
  | answer {outcome : Except Failure Bool}
      (h : ∀ fault, outcome = .error (.fault fault) → own fault) : HandsOn own (.answer outcome)
  | note (n : Note) {next : Program Descriptor} (h : HandsOn own next) :
      HandsOn own (.note n next)
  | knows (name : String) {next : Bool → Program Descriptor}
      (h : ∀ isKnown, HandsOn own (next isKnown)) : HandsOn own (.knows name next)
  | check (below : Option PropertyKey) (v : Value) {target : Target Descriptor}
      {next : Except Failure Unit → Program Descriptor}
      (htarget : ∀ d, target = .inline d →
        d.AllGuards fun g => ∀ v path, HandsOn own (g.body v path))
      (hverdict : ∀ outcome, (∀ fault, outcome ≠ .error (.fault fault)) →
        HandsOn own (next outcome))
      (hfault : ∀ fault, (next (.error (.fault fault))).EndsIn fault) :
      HandsOn own (.check below v target next)
  | conforms (v : Value) {target : Target Descriptor}
      {next : Except Fault Bool → Program Descriptor}
      (htarget : ∀ d, target = .inline d →
        d.AllGuards fun g => ∀ v path, HandsOn own (g.body v path))
      (hverdict : ∀ verdict, HandsOn own (next (.ok verdict)))
      (hfault : ∀ fault, (next (.error fault)).EndsIn fault) :
      HandsOn own (.conforms v target next)

end Program

/-- The guard hands on faults, on every value and at every path. -/
def Guard.HandsOn (own : Fault → Prop) (g : Guard Descriptor) : Prop :=
  ∀ v path, (g.body v path).HandsOn own

/-- Every guard that the evaluation of a descriptor can meet hands on faults: those that stand in
    the descriptor, and those of the descriptors known by name. -/
structure Validator.HandsOn (va : Validator) (own : Fault → Prop) (d : Descriptor) : Prop where
  /-- The guards that stand in the descriptor. -/
  guards : d.AllGuards (Guard.HandsOn own)
  /-- The guards of the descriptors known by name. -/
  known : ∀ name e, va.known name = some e → e.AllGuards (Guard.HandsOn own)

/-- The guards of what a request is about have a property, if those given in place do and those of
    the descriptors known by name. -/
theorem Scope.guards_of_resolve {P : Guard Descriptor → Prop} {scope : Scope}
    (hknown : ∀ name d, scope.known name = some d → d.AllGuards P)
    {target : Target Descriptor} {d : Descriptor}
    (htarget : ∀ e, target = .inline e → e.AllGuards P)
    (hresolve : scope.resolve target = .ok d) : d.AllGuards P := by
  cases target with
  | inline e =>
    obtain rfl := Except.ok.inj hresolve
    exact htarget e rfl
  | named name =>
    cases hname : scope.known name with
    | none => simp [resolve, hname] at hresolve
    | some e =>
      simp only [resolve, hname, Except.ok.injEq] at hresolve
      subst hresolve
      exact hknown name e hname

-- ════════════════════════════════════════════════════════════════════════
-- Programs that hand on faults
-- ════════════════════════════════════════════════════════════════════════

namespace Program

variable {own : Fault → Prop}

theorem HandsOn.accept : HandsOn own accept := .answer fun _ h => nomatch h

/-- To raise a report is to raise no fault. -/
theorem HandsOn.fail {f : Failure} (h : ∀ fault, f = .fault fault → own fault) :
    HandsOn own (fail f) :=
  .answer fun fault hf => h fault (Except.error.inj hf)

/-- A check that hands on every failure hands on faults. -/
theorem HandsOn.require (below : Option PropertyKey) (v : Value) {target : Target Descriptor}
    {next : Program Descriptor}
    (htarget : ∀ d, target = .inline d → d.AllGuards (Guard.HandsOn own))
    (hnext : HandsOn own next) : HandsOn own (require below v target next) := by
  refine .check below v htarget ?_ ?_
  · intro outcome hverdict
    cases outcome with
    | ok _ => exact hnext
    | error failure =>
      refine .fail ?_
      rintro fault rfl
      exact absurd rfl (hverdict fault)
  · intro fault
    rfl

/-- So does a question that hands on every fault. -/
theorem HandsOn.test (v : Value) {target : Target Descriptor} {next : Bool → Program Descriptor}
    (htarget : ∀ d, target = .inline d → d.AllGuards (Guard.HandsOn own))
    (hnext : ∀ verdict, HandsOn own (next verdict)) : HandsOn own (test v target next) :=
  .conforms v htarget hnext fun _ => rfl

/-- What a program that ends in a fault leaves behind: notes, and that fault. -/
theorem EndsIn.run_outcome {fault : Fault} {program : Program Descriptor}
    (h : program.EndsIn fault) (scope : Scope) :
    (program.run scope).outcome = .error (.fault fault) := by
  induction program with
  | answer outcome => exact h
  | note n next ih => exact ih h
  | knows name next ih => exact ih _ (h _)
  | check below v target next ih => exact h.elim
  | conforms v target next ih => exact h.elim

end Program

end Conform
