import Conform.Proofs.Descriptor.Propagation
import Conform.Proofs.Evaluation.Agreement
import Conform.Proofs.Evaluation.Steps

/-!
# Faults are never masked

A fault is raised where a guard ends in one, or where the evaluation goes deeper than its limit.
`Eval.Unmasked` says that an evaluation lets every raised fault through: nothing but the ends of
guards and their notes comes after it, and the outcome is that fault. Sequences keep this, so one
step of assert mode keeps it from the level below. Predicate mode walks the same way, so it inherits
the property.

## Main definitions

- `Event.raised?` — the fault that an event raises
- `Eval.Unmasked` — a raised fault ends the evaluation
- `Eval.Accounted` — besides, a fault in the outcome was raised
- `Eval.LetsThrough`, `Eval.EndsInLastRaised` — the same along the history

## Main results

- `Program.unmasked_run` — what a guard's program does with the faults it is told of
- `Scope.accounted_here` — one step of assert mode
- `Validator.accounts_level` — both modes, at every level
- `Validator.faults_never_masked` — both modes on a whole value, and a caller's own errors
-/

namespace Conform

/-- The fault that an event raises under a limit: that of a guard which ends in a fault, and that
    of a place which is entered beyond the limit. -/
def Event.raised? (limit : Nat) : Event → Option Fault
  | entered path depth => if limit < depth then some (.depthExceeded path limit) else none
  | returned (.error (.fault fault)) => some fault
  | _ => none

theorem Event.raised?_returned {limit : Nat} {outcome : Except Failure Bool} {fault : Fault} :
    (returned outcome).raised? limit = some fault ↔ outcome = .error (.fault fault) := by
  cases outcome with
  | ok verdict => simp [raised?]
  | error failure => cases failure <;> simp [raised?]

namespace Eval

variable {own : Fault → Prop} {limit : Nat} {α β : Type}

/-- A raised fault ends the evaluation: no guard is called any more, and the outcome is that
    fault. A fault in the outcome is one of a guard's own, or the limit was crossed. -/
structure Unmasked (own : Fault → Prop) (limit : Nat) (x : Eval Failure α) : Prop where
  /-- No guard is called after a fault was raised. -/
  halts : x.events.Pairwise fun event later =>
    (event.raised? limit).isSome = true → later.call? = none
  /-- The outcome is the fault that was raised. -/
  surfaces : ∀ event ∈ x.events, ∀ fault, event.raised? limit = some fault →
    x.outcome = .error (.fault fault)
  /-- Where a fault in the outcome comes from. -/
  origin : ∀ fault, x.outcome = .error (.fault fault) → own fault ∨
    ∃ path depth, .entered path depth ∈ x.events ∧ limit < depth ∧
      fault = .depthExceeded path limit

/-- A raised fault ends the evaluation, and a fault in the outcome was raised. -/
structure Accounted (own : Fault → Prop) (limit : Nat) (x : Eval Failure α) : Prop
    extends Unmasked own limit x where
  /-- A fault in the outcome was raised by an event. -/
  raised : ∀ fault, x.outcome = .error (.fault fault) →
    ∃ event ∈ x.events, event.raised? limit = some fault

-- ════════════════════════════════════════════════════════════════════════
-- Evaluations that raise nothing
-- ════════════════════════════════════════════════════════════════════════

/-- An evaluation in which nothing is raised and which does not end in a fault. -/
theorem Accounted.of_quiet {x : Eval Failure α}
    (hevents : ∀ event ∈ x.events, event.raised? limit = none)
    (houtcome : ∀ fault, x.outcome ≠ .error (.fault fault)) : Accounted own limit x where
  halts := List.pairwise_of_forall_mem_list fun event hevent _ _ hraised => by
    rw [hevents event hevent] at hraised
    cases hraised
  surfaces event hevent fault hraised := by
    rw [hevents event hevent] at hraised
    cases hraised
  origin fault hfault := absurd hfault (houtcome fault)
  raised fault hfault := absurd hfault (houtcome fault)

/-- To enter a place beyond the limit raises the fault that the evaluation ends in. -/
theorem Accounted.beyond (path : Path) :
    Accounted own limit
      (⟨[.entered path (limit + 1)], .error (.fault (.depthExceeded path limit))⟩ :
        Eval Failure α) := by
  have hraised : (Event.entered path (limit + 1)).raised? limit =
      some (.depthExceeded path limit) := by
    simp [Event.raised?]
  refine ⟨⟨List.pairwise_singleton _ _, ?_, ?_⟩, ?_⟩
  · intro event hevent fault hfault
    obtain rfl := List.mem_singleton.mp hevent
    cases hraised.symm.trans hfault
    rfl
  · rintro fault ⟨⟩
    exact .inr ⟨path, limit + 1, List.mem_singleton_self _, Nat.lt_succ_self limit, rfl⟩
  · rintro fault ⟨⟩
    exact ⟨_, List.mem_singleton_self _, hraised⟩

theorem Accounted.pure (a : α) : Accounted own limit (pure a) :=
  .of_quiet (fun _ h => nomatch h) fun _ h => nomatch h

theorem Accounted.rejectType (path : Path) (d : Descriptor) (v : Value) :
    Accounted own limit (rejectType path d v : Eval Failure α) :=
  .of_quiet (by rintro _ (_ | ⟨_, ⟨⟩⟩); rfl) fun _ h => nomatch h

theorem Accounted.rejectAbsent (path : Path) (d : Descriptor) :
    Accounted own limit (rejectAbsent path d : Eval Failure α) :=
  .of_quiet (by rintro _ (_ | ⟨_, ⟨⟩⟩); rfl) fun _ h => nomatch h

-- ════════════════════════════════════════════════════════════════════════
-- Sequences
-- ════════════════════════════════════════════════════════════════════════

theorem Unmasked.quiet {x : Eval Failure α} (hx : Unmasked own limit x)
    (houtcome : ∀ fault, x.outcome ≠ .error (.fault fault)) :
    ∀ event ∈ x.events, event.raised? limit = none := by
  intro event hevent
  cases hraised : event.raised? limit with
  | none => rfl
  | some fault => exact absurd (hx.surfaces event hevent fault hraised) (houtcome fault)

/-- Events that raise nothing may come before. -/
theorem Unmasked.prepend {x : Eval Failure α} {before : List Event}
    (hbefore : ∀ event ∈ before, event.raised? limit = none) (hx : Unmasked own limit x) :
    Unmasked own limit ⟨before ++ x.events, x.outcome⟩ where
  halts := by
    refine List.pairwise_append.mpr ⟨?_, hx.halts, ?_⟩
    · refine List.pairwise_of_forall_mem_list fun event hevent _ _ hraised => ?_
      rw [hbefore event hevent] at hraised
      cases hraised
    · intro event hevent _ _ hraised
      rw [hbefore event hevent] at hraised
      cases hraised
  surfaces := by
    intro event hevent fault hraised
    rcases List.mem_append.mp hevent with hevent | hevent
    · rw [hbefore event hevent] at hraised
      cases hraised
    · exact hx.surfaces event hevent fault hraised
  origin := by
    intro fault hfault
    rcases hx.origin fault hfault with hown | ⟨path, depth, hentered, hdepth⟩
    · exact .inl hown
    · exact .inr ⟨path, depth, List.mem_append_right before hentered, hdepth⟩

theorem Accounted.prepend {x : Eval Failure α} {before : List Event}
    (hbefore : ∀ event ∈ before, event.raised? limit = none) (hx : Accounted own limit x) :
    Accounted own limit ⟨before ++ x.events, x.outcome⟩ where
  toUnmasked := hx.toUnmasked.prepend hbefore
  raised := by
    intro fault hfault
    obtain ⟨event, hevent, hraised⟩ := hx.raised fault hfault
    exact ⟨event, List.mem_append_right before hevent, hraised⟩

/-- After a fault, events that call no guard and raise nothing else may follow. -/
theorem Unmasked.append {x : Eval Failure α} {fault : Fault} {later : List Event}
    (hx : Unmasked own limit x) (hfault : x.outcome = .error (.fault fault))
    (hcall : ∀ event ∈ later, event.call? = none)
    (hraised : ∀ event ∈ later, ∀ f, event.raised? limit = some f → f = fault) :
    Unmasked own limit (⟨x.events ++ later, .error (.fault fault)⟩ : Eval Failure β) where
  halts := by
    refine List.pairwise_append.mpr ⟨hx.halts, ?_, ?_⟩
    · exact List.pairwise_of_forall_mem_list fun _ _ event hevent _ => hcall event hevent
    · exact fun _ _ event hevent _ => hcall event hevent
  surfaces := by
    intro event hevent f hf
    rcases List.mem_append.mp hevent with hevent | hevent
    · have houtcome := hx.surfaces event hevent f hf
      rw [hfault] at houtcome
      cases houtcome
      rfl
    · rw [hraised event hevent f hf]
  origin := by
    rintro f ⟨⟩
    rcases hx.origin fault hfault with hown | ⟨path, depth, hentered, hdepth⟩
    · exact .inl hown
    · exact .inr ⟨path, depth, List.mem_append_left later hentered, hdepth⟩

theorem Accounted.bind {x : Eval Failure α} {f : α → Eval Failure β}
    (hx : Accounted own limit x) (hf : ∀ a, Accounted own limit (f a)) :
    Accounted own limit (x >>= f) := by
  obtain ⟨events, outcome⟩ := x
  cases outcome with
  | ok a =>
    -- a result means that nothing was raised so far
    have hquiet := hx.quiet fun _ h => nomatch h
    exact (hf a).prepend hquiet
  | error e =>
    exact {
      halts := hx.halts
      surfaces := fun event hevent fault hraised => by
        cases hx.surfaces event hevent fault hraised
        rfl
      origin := fun fault hfault => hx.origin fault (by cases hfault; rfl)
      raised := fun fault hfault => hx.raised fault (by cases hfault; rfl) }

theorem Accounted.compositional : Compositional fun _ x _ => Accounted own limit x where
  pure := .pure
  rejectType := .rejectType
  rejectAbsent := .rejectAbsent
  bind := .bind

-- ════════════════════════════════════════════════════════════════════════
-- From one mode to the other
-- ════════════════════════════════════════════════════════════════════════

theorem isReport_eq_false_of_raised? {event : Event} {fault : Fault}
    (h : event.raised? limit = some fault) : event.isReport = false := by
  cases event with
  | wrongType r => cases h
  | absent r => cases h
  | _ => rfl

theorem call?_eq_none_of_isReport {event : Event} (h : event.isReport = true) :
    event.call? = none := by
  cases event with
  | called g v path depth => cases h
  | _ => rfl

theorem outcome_mapError_eq_fault {y : Eval Fault α} {fault : Fault} :
    (y.mapError Failure.fault).outcome = .error (.fault fault) ↔ y.outcome = .error fault := by
  obtain ⟨events, outcome⟩ := y
  cases outcome <;> simp [mapError, Except.mapError]

/-- A question accounts for its faults if the assertion that walks the same way does. -/
theorem Agree.accounted {x : Eval Failure Unit} {y : Eval Fault Bool} (h : Agree x y)
    (hx : Accounted own limit x) : Accounted own limit (y.mapError .fault) := by
  have hfault {fault : Fault} :
      (y.mapError Failure.fault).outcome = .error (.fault fault) ↔
        x.outcome = .error (.fault fault) :=
    outcome_mapError_eq_fault.trans (h.outcomes.faulted_iff fault)
  -- the two histories differ in reports alone, which neither raise a fault nor call a guard
  refine ⟨⟨?_, ?_, ?_⟩, ?_⟩
  · have hwalk := hx.halts.filter fun event => !event.isReport
    rw [show x.events.filter (fun event => !event.isReport) = y.events.filter
      (fun event => !event.isReport) from h.walk_eq, List.pairwise_filter] at hwalk
    refine hwalk.imp fun {event later} hpair hraised => ?_
    obtain ⟨fault, hfault⟩ := Option.isSome_iff_exists.mp hraised
    have hevent := isReport_eq_false_of_raised? hfault
    cases hlater : later.isReport with
    | true => exact call?_eq_none_of_isReport hlater
    | false => exact hpair (by simp [hevent]) (by simp [hlater]) hraised
  · intro event hevent fault hraised
    have hreport := isReport_eq_false_of_raised? hraised
    have hmem := mem_events_of_walk_eq h.walk_eq.symm hreport hevent
    exact hfault.mpr (hx.surfaces event hmem fault hraised)
  · intro fault hy
    rcases hx.origin fault (hfault.mp hy) with hown | ⟨path, depth, hentered, hdepth⟩
    · exact .inl hown
    · exact .inr ⟨path, depth, mem_events_of_walk_eq h.walk_eq rfl hentered, hdepth⟩
  · intro fault hy
    obtain ⟨event, hevent, hraised⟩ := hx.raised fault (hfault.mp hy)
    have hreport := isReport_eq_false_of_raised? hraised
    exact ⟨event, mem_events_of_walk_eq h.walk_eq hreport hevent, hraised⟩

end Eval

-- ════════════════════════════════════════════════════════════════════════
-- Guards
-- ════════════════════════════════════════════════════════════════════════

variable {own : Fault → Prop} {limit : Nat}

/-- Both modes of a level account for their faults, on descriptors whose guards hand on faults. -/
def Level.Accounts (own : Fault → Prop) (limit : Nat) (level : Level) : Prop :=
  ∀ v d path, d.AllGuards (Guard.HandsOn own) →
    (level.assert v d path).Accounted own limit ∧
    ((level.accepts v d path).mapError .fault).Accounted own limit

namespace Scope

/-- The scope of a guard: the level below accounts for its faults, the guards of the descriptors
    known by name hand on faults, and asking for a name that is not known is a fault of the
    guard's own. -/
structure Accounts (own : Fault → Prop) (limit : Nat) (scope : Scope) : Prop where
  /-- The level below accounts for its faults. -/
  below : scope.below.Accounts own limit
  /-- The guards of the descriptors known by name hand on faults. -/
  known : ∀ name d, scope.known name = some d → d.AllGuards (Guard.HandsOn own)
  /-- Asking for a name that is not known is a fault of the guard's own. -/
  unknown : ∀ name, own (.unknownName name)

variable {scope : Scope}

/-- A request that cannot be resolved is one for a name that is not known. -/
theorem Accounts.own_of_resolve (h : scope.Accounts own limit) {target : Target Descriptor}
    {fault : Fault} (hresolve : scope.resolve target = .error fault) : own fault := by
  cases target with
  | inline e => cases hresolve
  | named name =>
    cases hknown : scope.known name with
    | some e => simp [resolve, hknown] at hresolve
    | none =>
      simp only [resolve, hknown, Except.error.injEq] at hresolve
      subst hresolve
      exact h.unknown name

/-- A request whose target cannot be resolved raises nothing by itself. -/
theorem unmasked_fail {α : Type} {fault : Fault} (hown : own fault) :
    (Eval.fail (.fault fault) : Eval Failure α).Unmasked own limit where
  halts := .nil
  surfaces _ h := nomatch h
  origin := by
    rintro f ⟨⟩
    exact .inl hown

theorem Accounts.unmasked_check (h : scope.Accounts own limit) (key : Option PropertyKey)
    (v : Value) {target : Target Descriptor}
    (htarget : ∀ e, target = .inline e → e.AllGuards (Guard.HandsOn own)) :
    (scope.check key v target).Unmasked own limit := by
  rw [check]
  cases hresolve : scope.resolve target with
  | ok d =>
    have hguards := guards_of_resolve h.known htarget hresolve
    exact (h.below v d (scope.place key) hguards).1.toUnmasked
  | error fault => exact unmasked_fail (h.own_of_resolve hresolve)

theorem Accounts.unmasked_conforms (h : scope.Accounts own limit) (v : Value)
    {target : Target Descriptor}
    (htarget : ∀ e, target = .inline e → e.AllGuards (Guard.HandsOn own)) :
    ((scope.conforms v target).mapError .fault).Unmasked own limit := by
  rw [conforms]
  cases hresolve : scope.resolve target with
  | ok d =>
    have hguards := guards_of_resolve h.known htarget hresolve
    exact (h.below v d scope.path hguards).2.toUnmasked
  | error fault => exact unmasked_fail (h.own_of_resolve hresolve)

end Scope

namespace Program

/-- A program that ends in a fault leaves nothing but notes. -/
theorem EndsIn.run_events {fault : Fault} {program : Program Descriptor}
    (h : program.EndsIn fault) (scope : Scope) :
    ∀ event ∈ (program.run scope).events, ∃ n, event = .noted n := by
  induction program with
  | answer outcome => exact fun _ hevent => nomatch hevent
  | note n next ih =>
    intro event hevent
    rcases List.mem_cons.mp hevent with rfl | hevent
    · exact ⟨n, rfl⟩
    · exact ih h event hevent
  | knows name next ih => exact ih _ (h _)
  | check below v target next ih => exact h.elim
  | conforms v target next ih => exact h.elim

/-- A request and what the program does with its answer: a fault that it is told of ends the
    program, and any other answer lets it go on. -/
theorem unmasked_request {α : Type} {scope : Scope} {x : Eval Failure α}
    {next : Program Descriptor} (hx : x.Unmasked own limit)
    (hverdict : (∀ fault, x.outcome ≠ .error (.fault fault)) →
      (next.run scope).Unmasked own limit)
    (hfault : ∀ fault, x.outcome = .error (.fault fault) → next.EndsIn fault) :
    (⟨x.events ++ (next.run scope).events, (next.run scope).outcome⟩ :
      Eval Failure Bool).Unmasked own limit := by
  by_cases h : ∃ fault, x.outcome = .error (.fault fault)
  · -- the program is told of a fault: it only leaves notes before it ends in it
    obtain ⟨fault, houtcome⟩ := h
    have hends := hfault fault houtcome
    have hnotes := hends.run_events scope
    rw [hends.run_outcome scope]
    refine hx.append houtcome ?_ ?_
    · intro event hevent
      obtain ⟨n, rfl⟩ := hnotes event hevent
      rfl
    · intro event hevent f hf
      obtain ⟨n, rfl⟩ := hnotes event hevent
      cases hf
  · -- nothing was raised so far, and what comes is that of the rest
    have houtcome := not_exists.mp h
    exact (hverdict houtcome).prepend (hx.quiet houtcome)

/-- A program that hands on faults lets every fault through that is raised in its requests. -/
theorem unmasked_run {scope : Scope} (hscope : scope.Accounts own limit)
    {program : Program Descriptor} (h : program.HandsOn own) :
    (program.run scope).Unmasked own limit := by
  induction program with
  | answer outcome =>
    cases h with
    | answer hown =>
      exact {
        halts := .nil
        surfaces := fun _ hevent => nomatch hevent
        origin := fun fault hfault => .inl (hown fault hfault) }
  | note n next ih =>
    cases h with
    | note _ hnext =>
      have hnote : ∀ event ∈ [Event.noted n], event.raised? limit = none := by
        simp [Event.raised?]
      exact (ih hnext).prepend hnote
  | knows name next ih =>
    cases h with
    | knows _ hnext => exact ih _ (hnext _)
  | check below v target next ih =>
    cases h with
    | check _ _ htarget hverdict hfault =>
      rw [run_check]
      refine unmasked_request (hscope.unmasked_check below v htarget) ?_ ?_
      · intro houtcome
        exact ih _ (hverdict _ houtcome)
      · intro fault houtcome
        rw [houtcome]
        exact hfault fault
  | conforms v target next ih =>
    cases h with
    | conforms _ htarget hverdict hfault =>
      rw [run_conforms]
      refine unmasked_request (hscope.unmasked_conforms v htarget) ?_ ?_
      · intro houtcome
        cases hanswer : (scope.conforms v target).outcome with
        | ok verdict => exact ih _ (hverdict verdict)
        | error fault => exact absurd (Eval.outcome_mapError_eq_fault.mpr hanswer) (houtcome fault)
      · intro fault houtcome
        rw [Eval.outcome_mapError_eq_fault.mp houtcome]
        exact hfault fault

end Program

/-- The call of a guard that hands on faults accounts for its faults: its end raises what the
    guard ends in. -/
theorem Guard.accounted_call {scope : Scope} (hscope : scope.Accounts own limit)
    {g : Guard Descriptor} (hg : g.HandsOn own) (v : Value) :
    (g.call scope v).Accounted own limit := by
  have hrun := Program.unmasked_run hscope (hg v scope.path)
  rw [call_eq]
  generalize (g.body v scope.path).run scope = run at hrun
  obtain ⟨events, outcome⟩ := run
  have hcalled : ∀ event ∈ [Event.called g v scope.path scope.depth],
      event.raised? limit = none := by
    simp [Event.raised?]
  by_cases h : ∃ fault, outcome = .error (.fault fault)
  · obtain ⟨fault, rfl⟩ := h
    have hend : (⟨events ++ [.returned (.error (.fault fault))], .error (.fault fault)⟩ :
        Eval Failure Bool).Unmasked own limit := by
      refine hrun.append rfl ?_ ?_
      · simp [Event.call?]
      · simp [Event.raised?]
    refine ⟨hend.prepend hcalled, ?_⟩
    rintro f ⟨⟩
    exact ⟨.returned (.error (.fault fault)), by simp, rfl⟩
  · have houtcome := not_exists.mp h
    refine .of_quiet ?_ houtcome
    intro event hevent
    rcases List.mem_cons.mp hevent with rfl | hevent
    · rfl
    rcases List.mem_append.mp hevent with hevent | hevent
    · exact hrun.quiet houtcome event hevent
    · obtain rfl := List.mem_singleton.mp hevent
      refine Option.eq_none_iff_forall_ne_some.mpr fun fault hraised => ?_
      exact houtcome fault (Event.raised?_returned.mp hraised)

namespace Scope

/-- One step of assert mode accounts for its faults if the level below does. -/
theorem accounted_here {scope : Scope} (hscope : scope.Accounts own limit) (v : Value)
    {d : Descriptor} (hguards : d.AllGuards (Guard.HandsOn own)) :
    (scope.assertHere v d).Accounted own limit := by
  refine related_here Eval.Accounted.compositional scope.below ?_ ?_ ?_ v hguards
  · intro x e key he
    exact (hscope.below x e (scope.place key) he).1
  · intro x e he
    exact (hscope.below x e scope.path he).2
  · intro g x hg
    exact Guard.accounted_call hscope hg x

end Scope

namespace Validator

/-- Both modes account for their faults at every level. Assert mode is followed down from the limit,
    and predicate mode walks as it does. -/
theorem accounts_level {va : Validator} (hunknown : ∀ name, own (.unknownName name))
    (hknown : ∀ name d, va.known name = some d → d.AllGuards (Guard.HandsOn own)) (depth : Nat) :
    (va.levelAt depth).Accounts own va.maxDepth := by
  induction depth using va.depth_induction with
  | beyond depth hdepth =>
    intro v d path _
    have hassert : ((va.levelAt depth).assert v d path).Accounted own va.maxDepth := by
      rw [levelAt_of_lt hdepth]
      exact .beyond path
    exact ⟨hassert, (va.level_agrees _ v d path).accounted hassert⟩
  | within depth hdepth ih =>
    intro v d path hguards
    have hscope : (va.scopeAt path depth).Accounts own va.maxDepth := ⟨ih, hknown, hunknown⟩
    have hentered : ∀ event ∈ [Event.entered path depth], event.raised? va.maxDepth = none := by
      simp [Event.raised?, hdepth]
    have hassert : ((va.levelAt depth).assert v d path).Accounted own va.maxDepth := by
      rw [levelAt_of_le hdepth]
      exact (Scope.accounted_here hscope v hguards).prepend hentered
    exact ⟨hassert, (va.level_agrees _ v d path).accounted hassert⟩

end Validator

-- ════════════════════════════════════════════════════════════════════════
-- Main results
-- ════════════════════════════════════════════════════════════════════════

/-- The last item of a list that has a property. -/
theorem exists_last_of_exists {α : Type} {p : α → Prop} {xs : List α} (h : ∃ x ∈ xs, p x) :
    ∃ before x after, xs = before ++ x :: after ∧ p x ∧ ∀ y ∈ after, ¬ p y := by
  induction xs with
  | nil =>
    obtain ⟨x, hx, _⟩ := h
    cases hx
  | cons x xs ih =>
    by_cases hlater : ∃ y ∈ xs, p y
    · obtain ⟨before, y, after, rfl, hy⟩ := ih hlater
      exact ⟨x :: before, y, after, rfl, hy⟩
    · have hnone : ∀ y ∈ xs, ¬ p y := fun y hy hpy => hlater ⟨y, hy, hpy⟩
      obtain ⟨y, hy, hpy⟩ := h
      rcases List.mem_cons.mp hy with rfl | hy
      · exact ⟨[], y, xs, rfl, hpy, hnone⟩
      · exact absurd hpy (hnone y hy)

namespace Eval

/-- Every fault that is raised in the history gets through: once it is raised no guard is called,
    and the outcome is that fault. -/
def LetsThrough {ε α : Type} (asError : Fault → ε) (limit : Nat) (x : Eval ε α) : Prop :=
  ∀ before event after fault, x.events = before ++ event :: after →
    event.raised? limit = some fault →
      (∀ later ∈ after, later.call? = none) ∧ x.outcome = .error (asError fault)

/-- A fault in the outcome is the one that was raised last. -/
def EndsInLastRaised {ε α : Type} (asError : Fault → ε) (limit : Nat) (x : Eval ε α) : Prop :=
  ∀ fault, x.outcome = .error (asError fault) →
    ∃ before event after, x.events = before ++ event :: after ∧
      event.raised? limit = some fault ∧ ∀ later ∈ after, later.raised? limit = none

variable {α : Type} {x : Eval Failure α}

theorem Accounted.letsThrough (hx : x.Accounted own limit) : x.LetsThrough .fault limit := by
  intro before event after fault hsplit hraised
  have hhalts := hx.halts
  rw [hsplit, List.pairwise_append, List.pairwise_cons] at hhalts
  obtain ⟨-, ⟨hafter, -⟩, -⟩ := hhalts
  refine ⟨fun later hlater => hafter later hlater (by rw [hraised]; rfl), ?_⟩
  refine hx.surfaces event ?_ fault hraised
  rw [hsplit]
  exact List.mem_append_right before List.mem_cons_self

theorem Accounted.endsInLastRaised (hx : x.Accounted own limit) :
    x.EndsInLastRaised .fault limit := by
  intro fault houtcome
  obtain ⟨raising, hmem, hraising⟩ := hx.raised fault houtcome
  have hsome : ∃ event ∈ x.events, (event.raised? limit).isSome = true :=
    ⟨raising, hmem, by simp [hraising]⟩
  obtain ⟨before, event, after, hsplit, hevent, hafter⟩ := exists_last_of_exists hsome
  refine ⟨before, event, after, hsplit, ?_, fun later hlater =>
    Option.not_isSome_iff_eq_none.mp (hafter later hlater)⟩
  -- whatever the last event raises is the outcome
  obtain ⟨f, hf⟩ := Option.isSome_iff_exists.mp hevent
  have hlast := (hx.letsThrough before event after f hsplit hf).2
  rw [houtcome] at hlast
  cases hlast
  exact hf

end Eval

namespace Validator

/-- A fault is never masked. In either mode, if the guards hand on faults, a fault that is raised
    anywhere ends the whole evaluation: no guard is called any more, and the outcome is that very
    fault, which a caller's own errors receive through the door for faults. A fault in the outcome
    is the one that was raised last. -/
theorem faults_never_masked (va : Validator) (v : Value) (d : Descriptor)
    (hguards : va.HandsOn (fun _ => True) d) :
    ((va.assert v d).LetsThrough .fault va.maxDepth ∧
      (va.assert v d).EndsInLastRaised .fault va.maxDepth) ∧
    ((va.accepts v d).LetsThrough id va.maxDepth ∧
      (va.accepts v d).EndsInLastRaised id va.maxDepth) ∧
    ∀ {ε : Type} (errors : ErrorFactory ε),
      (va.assertWith errors v d).LetsThrough errors.fault va.maxDepth ∧
      ∀ fault, (va.assert v d).outcome = .error (.fault fault) →
        (va.assertWith errors v d).outcome = .error (errors.fault fault) := by
  obtain ⟨hassert, haccepts⟩ :=
    va.accounts_level (fun _ => trivial) hguards.known 0 v d .root hguards.guards
  have hwith {ε : Type} (errors : ErrorFactory ε) (fault : Fault)
      (houtcome : (va.assert v d).outcome = .error (.fault fault)) :
      (va.assertWith errors v d).outcome = .error (errors.fault fault) := by
    simp only [assertWith, Eval.mapError, houtcome]
    rfl
  refine ⟨⟨hassert.letsThrough, hassert.endsInLastRaised⟩, ⟨?_, ?_⟩, ?_⟩
  · intro before event after fault hsplit hraised
    obtain ⟨hafter, houtcome⟩ := haccepts.letsThrough before event after fault hsplit hraised
    exact ⟨hafter, Eval.outcome_mapError_eq_fault.mp houtcome⟩
  · intro fault houtcome
    exact haccepts.endsInLastRaised fault (Eval.outcome_mapError_eq_fault.mpr houtcome)
  · intro ε errors
    refine ⟨?_, hwith errors⟩
    intro before event after fault hsplit hraised
    obtain ⟨hafter, houtcome⟩ := hassert.letsThrough before event after fault hsplit hraised
    exact ⟨hafter, hwith errors fault houtcome⟩

/-- A guard that fails for a reason of its own. -/
def offline : Guard Descriptor :=
  ⟨some "offline", none, fun _ _ => .answer (.error (.fault (.guard "backend unavailable" [])))⟩

/-- Nothing at all, if it is not for a guard that asks another one first. -/
def offlineOrNull : Descriptor :=
  .union [.guard ⟨some "asks", none, fun v _ =>
    .test v (.inline (.guard offline)) fun _ => .accept⟩, .primitive .null]

/-- The fault of the guard that is asked ends both modes, although a later member accepts. -/
theorem faults_never_masked_offlineOrNull :
    HandsOn ⟨4, fun _ => none⟩ (fun _ => True) offlineOrNull ∧
    (assert ⟨4, fun _ => none⟩ .null offlineOrNull).outcome =
      .error (.fault (.guard "backend unavailable" [])) ∧
    (accepts ⟨4, fun _ => none⟩ .null offlineOrNull).outcome =
      .error (.guard "backend unavailable" []) := by
  have hoffline : offline.HandsOn (fun _ => True) := fun _ _ => .answer fun _ _ => trivial
  have hasks : HandsOn ⟨4, fun _ => none⟩ (fun _ => True) offlineOrNull := by
    refine ⟨?_, fun _ _ h => nomatch h⟩
    simp only [offlineOrNull, Descriptor.allGuards_union, List.forall_mem_cons,
      Descriptor.allGuards_guard, Descriptor.allGuards_primitive]
    refine ⟨fun v path => .test v ?_ fun _ => .accept, trivial, by simp⟩
    rintro d ⟨⟩
    exact Descriptor.allGuards_guard.mpr hoffline
  obtain ⟨⟨hassert, -⟩, ⟨haccepts, -⟩, -⟩ := faults_never_masked _ .null offlineOrNull hasks
  refine ⟨hasks, ?_, ?_⟩
  · exact (hassert [.entered .root 0, .entered .root 1, .called _ _ .root 1, .entered .root 2,
      .called _ _ .root 2] (.returned _) [.returned _] _ rfl rfl).2
  · exact (haccepts [.entered .root 0, .entered .root 1, .called _ _ .root 1, .entered .root 2,
      .called _ _ .root 2] (.returned _) [.returned _] _ rfl rfl).2

end Validator

end Conform
