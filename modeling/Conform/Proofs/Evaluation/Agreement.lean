import Conform.Proofs.Evaluation.Laws

/-!
# Agreement of the two modes

Assert mode and predicate mode are two recursions that call each other: assert mode probes the
members of combinators in predicate mode, and guards ask for either. `Agree` relates an evaluation
of one mode to one of the other: they walk the same way, reports apart, and come to the same
verdict or to the same fault. One step of the two modes preserves agreement of the level below,
so the modes agree at every level.

## Main definitions

- `Eval.walk` — the history without the reports that were written
- `Eval.calls` — the guard calls of a history, in order
- `Eval.Agree` — the same walk and the same verdict or fault
- `SameVerdict` — agreement of two outcomes, spelled out

## Main results

- `Scope.agree_here` — one step of the two modes preserves agreement
- `Validator.modes_sameVerdict` — the two modes come to the same verdict or to the same fault
- `Validator.calls_assert_eq_calls_accepts` — the two modes make the same guard calls
-/

namespace Conform

/-- A call of a guard on a value, and where it took place. -/
structure GuardCall where
  /-- The guard. -/
  guard : Guard Descriptor
  /-- The value it was called on. -/
  value : Value
  /-- The path of the call. -/
  path : Path
  /-- The depth of the call. -/
  depth : Nat

namespace Event

/-- Whether the event is a report being written. -/
def isReport : Event → Bool
  | wrongType _ | absent _ => true
  | _ => false

/-- The guard call an event stands for. -/
def call? : Event → Option GuardCall
  | called guard value path depth => some ⟨guard, value, path, depth⟩
  | _ => none

end Event

namespace Eval

variable {ε ε' α β : Type}

/-- The history without the reports that were written. -/
def walk (x : Eval ε α) : List Event := x.events.filter fun event => !event.isReport

/-- The guard calls that were made, in order. -/
def calls (x : Eval ε α) : List GuardCall := x.events.filterMap Event.call?

/-- A report is no guard call, so the walk tells the calls. -/
theorem calls_eq_filterMap_walk (x : Eval ε α) : x.calls = x.walk.filterMap Event.call? := by
  rw [walk, List.filterMap_filter, calls]
  congr 1
  funext event
  cases event <;> rfl

/-- What happens in one of two evaluations that walk the same way, reports apart, happens in the
    other. -/
theorem mem_events_of_walk_eq {x : Eval ε α} {y : Eval ε' β} {event : Event}
    (hwalk : x.walk = y.walk) (hreport : event.isReport = false) (hevent : event ∈ x.events) :
    event ∈ y.events := by
  have hx : event ∈ x.walk := List.mem_filter.mpr ⟨hevent, by simp [hreport]⟩
  rw [hwalk] at hx
  exact (List.mem_filter.mp hx).1

/-- An assertion and a question that walk the same way and come to the same verdict, or to the
    same fault. -/
structure Agree (x : Eval Failure Unit) (y : Eval Fault Bool) : Prop where
  /-- Reports apart, the same things happen in the same order. -/
  walk_eq : x.walk = y.walk
  /-- The question is answered by the verdict of the assertion. -/
  outcome_eq : y.outcome = Scope.verdictOf (x.outcome.map fun _ => true)

-- ════════════════════════════════════════════════════════════════════════
-- Ends of an evaluation
-- ════════════════════════════════════════════════════════════════════════

theorem Agree.success : Agree (pure ()) (pure true) := ⟨rfl, rfl⟩

theorem Agree.rejectType (path : Path) (d : Descriptor) (v : Value) :
    Agree (rejectType path d v) (pure false) := ⟨rfl, rfl⟩

theorem Agree.rejectAbsent (path : Path) (d : Descriptor) :
    Agree (rejectAbsent path d) (pure false) := ⟨rfl, rfl⟩

theorem Agree.expectType (verdict : Bool) (path : Path) (d : Descriptor) (v : Value) :
    Agree (expectType verdict path d v) (pure verdict) := by
  cases verdict with
  | true => exact success
  | false => exact rejectType path d v

/-- A question that is asked by both modes: one reports the verdict, the other hands it on. -/
theorem Agree.report (y : Eval Fault Bool) (path : Path) (d : Descriptor) (v : Value) :
    Agree (y.mapError .fault >>= fun verdict => Eval.expectType verdict path d v) y := by
  obtain ⟨events, outcome⟩ := y
  cases outcome with
  | error fault => exact ⟨rfl, rfl⟩
  | ok verdict =>
    obtain ⟨hwalk, houtcome⟩ := Agree.expectType verdict path d v
    refine ⟨?_, houtcome⟩
    simpa [walk] using hwalk

/-- A guard that is called by both modes: its failures about the value are a no. -/
theorem Agree.call (x : Eval Failure Bool) (path : Path) (d : Descriptor) (v : Value) :
    Agree (x >>= fun verdict => Eval.expectType verdict path d v)
      (x.attempt >>= fun outcome => ⟨[], Scope.verdictOf outcome⟩) := by
  obtain ⟨events, outcome⟩ := x
  cases outcome with
  | error failure =>
    constructor
    · simp [walk, attempt]
    · cases failure <;> rfl
  | ok verdict =>
    obtain ⟨hwalk, houtcome⟩ := Agree.expectType verdict path d v
    refine ⟨?_, houtcome⟩
    simpa [walk, attempt] using hwalk

-- ════════════════════════════════════════════════════════════════════════
-- Sequences and loops
-- ════════════════════════════════════════════════════════════════════════

/-- An event that both modes record. -/
theorem Agree.emit_bind {x : Eval Failure Unit} {y : Eval Fault Bool} (event : Event)
    (h : Agree x y) : Agree (emit event >>= fun _ => x) (emit event >>= fun _ => y) := by
  refine ⟨?_, h.outcome_eq⟩
  have hwalk := h.walk_eq
  simp only [walk] at hwalk
  simp only [walk, Eval.emit_bind, List.filter_cons, hwalk]

/-- Assert mode goes on where predicate mode does: after a yes. -/
theorem Agree.andThen {x x' : Eval Failure Unit} {y y' : Eval Fault Bool}
    (h : Agree x y) (h' : Agree x' y') :
    Agree (x >>= fun _ => x')
      (y >>= fun | true => y' | false => pure false) := by
  obtain ⟨events, outcome⟩ := x
  obtain ⟨events', outcome'⟩ := y
  obtain ⟨hwalk, rfl⟩ := h
  simp only [walk] at hwalk
  cases outcome with
  | ok _ =>
    refine ⟨?_, h'.outcome_eq⟩
    have hrest := h'.walk_eq
    simp only [walk] at hrest
    simp [walk, Except.map, Scope.verdictOf, hwalk, hrest]
  | error failure =>
    cases failure <;> exact ⟨by simp [walk, Except.map, Scope.verdictOf, hwalk], rfl⟩

/-- Asserting each of a list agrees with asking about all of it. -/
theorem Agree.forM_allM {xs : List α} {f : α → Eval Failure PUnit} {g : α → Eval Fault Bool}
    (h : ∀ x ∈ xs, Agree (f x) (g x)) : Agree (xs.forM f) (xs.allM g) := by
  induction xs with
  | nil => exact success
  | cons x xs ih =>
    have hx := h x List.mem_cons_self
    have hxs := ih fun y hy => h y (List.mem_cons_of_mem x hy)
    exact hx.andThen hxs

end Eval

-- ════════════════════════════════════════════════════════════════════════
-- Levels
-- ════════════════════════════════════════════════════════════════════════

namespace Level

/-- The two modes of a level agree on every value, descriptor and path. -/
def Agrees (level : Level) : Prop :=
  ∀ v d path, Eval.Agree (level.assert v d path) (level.accepts v d path)

end Level

/-- One step of the two modes preserves agreement of the level below. -/
theorem Scope.agree_here (scope : Scope) (hbelow : scope.below.Agrees) (v : Value)
    (d : Descriptor) : Eval.Agree (scope.assertHere v d) (scope.acceptsHere v d) := by
  cases d with
  | primitive p => exact .expectType (p.test v) scope.path _ v
  | literal s =>
    cases v with
    | symbol t => exact .expectType (t == s) scope.path _ _
    | _ => exact .rejectType scope.path _ _
  | guard g =>
    -- the guard runs in the same scope in both modes, so only what becomes of its end differs
    exact .call _ scope.path _ v
  | arrayOf item =>
    cases v with
    | array items => exact .forM_allM fun entry _ => hbelow entry.1 item _
    | _ => exact .rejectType scope.path _ _
  | union members =>
    -- assert mode asks about the members as predicate mode does, with faults turned into failures
    simp only [assertHere, acceptsHere, Eval.anyM_mapError]
    exact .report _ scope.path _ v
  | intersection members =>
    simp only [assertHere, acceptsHere, Eval.allM_mapError]
    exact .report _ scope.path _ v
  | shape fields =>
    simp only [assertHere, acceptsHere]
    cases v.holdsProperties with
    | false => exact .rejectType scope.path _ v
    | true =>
      refine .forM_allM fun entry _ => ?_
      cases hproperty : v.get? entry.1 with
      | none => simpa only [hproperty] using Eval.Agree.rejectAbsent _ entry.2
      | some property => simpa only [hproperty] using hbelow property entry.2 _

namespace Validator

/-- The two modes agree with any number of levels to go. -/
theorem level_agrees (va : Validator) (left : Nat) : (va.level left).Agrees := by
  induction left with
  | zero => exact fun v d path => ⟨rfl, rfl⟩
  | succ left ih =>
    intro v d path
    exact (Scope.agree_here ⟨va.known, va.level left, path, _⟩ ih v d).emit_bind (.entered path _)

/-- The two modes agree on a whole value. -/
theorem agree_whole (va : Validator) (v : Value) (d : Descriptor) :
    Eval.Agree (va.assert v d) (va.accepts v d) := va.level_agrees _ v d .root

/-- A guard that asserts and a guard that asks, about the same value and target at the same place,
    see evaluations that agree. -/
theorem scope_agree (va : Validator) (path : Path) (depth : Nat) (v : Value)
    (target : Target Descriptor) :
    Eval.Agree ((va.scopeAt path depth).check none v target)
      ((va.scopeAt path depth).conforms v target) := by
  simp only [Scope.check, Scope.conforms]
  cases (va.scopeAt path depth).resolve target with
  | ok d => exact va.level_agrees _ v d path
  | error fault => exact ⟨rfl, rfl⟩

end Validator

-- ════════════════════════════════════════════════════════════════════════
-- Main results
-- ════════════════════════════════════════════════════════════════════════

/-- The outcome of an assertion and that of a question say the same: both accept, both reject, or
    both end in the very same fault. -/
structure SameVerdict (asserted : Except Failure Unit) (asked : Except Fault Bool) : Prop where
  /-- A yes is a success. -/
  accepted_iff : asked = .ok true ↔ asserted = .ok ()
  /-- A no is a failure about the value. -/
  rejected_iff : asked = .ok false ↔
    ∃ r, asserted = .error (.invalidType r) ∨ asserted = .error (.missingProperty r)
  /-- A fault is that fault. -/
  faulted_iff : ∀ f, asked = .error f ↔ asserted = .error (.fault f)

theorem Eval.Agree.outcomes {x : Eval Failure Unit} {y : Eval Fault Bool} (h : Agree x y) :
    SameVerdict x.outcome y.outcome := by
  rw [h.outcome_eq]
  cases x.outcome with
  | ok _ => constructor <;> simp [Except.map, Scope.verdictOf]
  | error failure =>
    cases failure <;> constructor <;> simp [Except.map, Scope.verdictOf]

/-- The two modes come to the same verdict or to the same fault: at every path and depth, on a
    whole value, and where a guard may ask in either mode. -/
theorem Validator.modes_sameVerdict (va : Validator) :
    (∀ path depth v d,
      SameVerdict ((va.levelAt depth).assert v d path).outcome
        ((va.levelAt depth).accepts v d path).outcome) ∧
    (∀ v d, SameVerdict (va.assert v d).outcome (va.accepts v d).outcome) ∧
    (∀ path depth v target,
      SameVerdict ((va.scopeAt path depth).check none v target).outcome
        ((va.scopeAt path depth).conforms v target).outcome) := by
  refine ⟨?_, ?_, ?_⟩
  · intro path depth v d
    exact (va.level_agrees _ v d path).outcomes
  · intro v d
    exact (va.level_agrees _ v d .root).outcomes
  · intro path depth v target
    exact (va.scope_agree path depth v target).outcomes

/-- The two modes make the same guard calls in the same order, however the evaluation ends. -/
theorem Validator.calls_assert_eq_calls_accepts (va : Validator) (v : Value) (d : Descriptor) :
    (va.assert v d).calls = (va.accepts v d).calls := by
  rw [Eval.calls_eq_filterMap_walk, Eval.calls_eq_filterMap_walk]
  exact congrArg (List.filterMap Event.call?) (va.level_agrees _ v d .root).walk_eq

end Conform
