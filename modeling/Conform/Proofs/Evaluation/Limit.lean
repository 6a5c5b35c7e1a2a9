import Conform.Proofs.Evaluation.Depth
import Conform.Proofs.Evaluation.Faults
import Conform.Proofs.Evaluation.Meaning

/-!
# The depth limit

The limit cuts an evaluation off; it never changes an answer. Two evaluations of the same value
under different limits run side by side until the one with the smaller limit is cut off, and if
that never happens they end alike. Guards see values and paths but no depths, so they cannot tell
the limits apart, and the ones that hand on faults cannot hide that an evaluation was cut off.

## Main definitions

- `Eval.CutOff` — an evaluation went deeper than its limit
- `Eval.Persists` — an evaluation is cut off, or another one ends alike
- `Fault.IsGuards` — the faults that guards raise for reasons of their own

## Main results

- `Scope.persists_here` — one step of assert mode under two limits
- `Validator.persists_level` — both modes under two limits, at every level
- `Validator.conforms_of_assert` — no limit is so small that it lets a wrong value pass
- `Validator.limit_only_cuts_off` — what the limit can do to the outcome of a whole value
-/

namespace Conform

/-- The faults that guards raise for reasons of their own. -/
def Fault.IsGuards : Fault → Prop
  | guard _ _ => True
  | depthExceeded _ _ => False

namespace Eval

variable {ε α β : Type} {asError : Fault → ε}

/-- The evaluation went deeper than its limit. -/
def CutOff (asError : Fault → ε) (x : Eval ε α) : Prop :=
  ∃ path limit, x.outcome = .error (asError (.depthExceeded path limit))

/-- An evaluation is cut off, or another one, under a greater limit, ends alike. -/
def Persists (asError : Fault → ε) (x x' : Eval ε α) : Prop :=
  x.CutOff asError ∨ x.outcome = x'.outcome

theorem Persists.refl (x : Eval ε α) : Persists asError x x := .inr rfl

/-- An evaluation that is not cut off ends as the other one does. -/
theorem Persists.outcome_eq {x x' : Eval ε α} (h : Persists asError x x')
    (hcut : ¬ x.CutOff asError) : x'.outcome = x.outcome :=
  (h.resolve_left hcut).symm

/-- An evaluation is cut off if the other one is. -/
theorem Persists.cutOff {x x' : Eval ε α} (h : Persists asError x x') (hcut : x'.CutOff asError) :
    x.CutOff asError := by
  rcases h with hx | hsame
  · exact hx
  · rwa [CutOff, hsame]

-- ════════════════════════════════════════════════════════════════════════
-- Sequences
-- ════════════════════════════════════════════════════════════════════════

theorem Persists.bind {x x' : Eval ε α} {f f' : α → Eval ε β} (hx : Persists asError x x')
    (hf : ∀ a, Persists asError (f a) (f' a)) : Persists asError (x >>= f) (x' >>= f') := by
  rw [Persists, CutOff, outcome_bind, outcome_bind]
  rcases hx with ⟨path, limit, hcut⟩ | hsame
  · rw [hcut]
    exact .inl ⟨path, limit, rfl⟩
  · rw [← hsame]
    cases x.outcome with
    | ok a => exact hf a
    | error e => exact .inr rfl

theorem Persists.compositional : Compositional fun _ x x' => Persists .fault x x' where
  pure _ := .refl _
  rejectType _ _ _ := .refl _
  rejectAbsent _ _ := .refl _
  bind := .bind

-- ════════════════════════════════════════════════════════════════════════
-- From one mode to the other
-- ════════════════════════════════════════════════════════════════════════

/-- A question that assert mode passes on persists. -/
theorem Persists.mapError {y y' : Eval Fault α} (h : Persists id y y') :
    Persists .fault (y.mapError Failure.fault) (y'.mapError Failure.fault) := by
  rcases h with ⟨path, limit, hcut⟩ | hsame
  · exact .inl ⟨path, limit, outcome_mapError_eq_fault.mpr hcut⟩
  · exact .inr (congrArg (Except.mapError Failure.fault) hsame)

/-- Questions persist if the assertions do that come to the same verdicts. -/
theorem Agree.persists {x x' : Eval Failure Unit} {y y' : Eval Fault Bool} (h : Agree x y)
    (h' : Agree x' y') (hx : Persists .fault x x') : Persists id y y' := by
  rcases hx with ⟨path, limit, hcut⟩ | hsame
  · exact .inl ⟨path, limit, (h.outcomes.faulted_iff _).mpr hcut⟩
  · right
    rw [h.outcome_eq, h'.outcome_eq, hsame]

end Eval

-- ════════════════════════════════════════════════════════════════════════
-- Guards
-- ════════════════════════════════════════════════════════════════════════

variable {own : Fault → Prop}

/-- Both modes of a level persist in another one, on descriptors whose guards hand on faults. -/
def Level.PersistsIn (own : Fault → Prop) (level level' : Level) : Prop :=
  ∀ v d path, d.AllGuards (Guard.HandsOn own) →
    (level.assert v d path).Persists .fault (level'.assert v d path) ∧
    (level.accepts v d path).Persists id (level'.accepts v d path)

section Guards

variable {scope : Scope} {below' : Level} (hbelow : scope.below.PersistsIn own below')
  (hknown : ∀ name d, scope.known name = some d → d.AllGuards (Guard.HandsOn own))

include hbelow hknown

namespace Scope

theorem persists_check (key : Option PropertyKey) (v : Value) {target : Target Descriptor}
    (htarget : ∀ e, target = .inline e → e.AllGuards (Guard.HandsOn own)) :
    (scope.check key v target).Persists .fault
      ({ scope with below := below' }.check key v target) := by
  have hresolve' : { scope with below := below' }.resolve target = scope.resolve target := rfl
  rw [check, check, hresolve']
  cases hresolve : scope.resolve target with
  | ok d => exact (hbelow v d _ (guards_of_resolve hknown htarget hresolve)).1
  | error fault => exact .refl _

theorem persists_conforms (v : Value) {target : Target Descriptor}
    (htarget : ∀ e, target = .inline e → e.AllGuards (Guard.HandsOn own)) :
    (scope.conforms v target).Persists id
      ({ scope with below := below' }.conforms v target) := by
  have hresolve' : { scope with below := below' }.resolve target = scope.resolve target := rfl
  rw [conforms, conforms, hresolve']
  cases hresolve : scope.resolve target with
  | ok d => exact (hbelow v d _ (guards_of_resolve hknown htarget hresolve)).2
  | error fault => exact .refl _

end Scope

namespace Program

omit hbelow hknown in
/-- A request under two limits, and what the program does with its answer. A fault ends the
    program under both, so it cannot be hidden that the request was cut off. -/
theorem persists_request {ε α : Type} {asError : Fault → ε} {x x' : Eval ε α}
    {next : Except ε α → Program Descriptor} {scope' : Scope} (hx : x.Persists asError x')
    (hverdict : (∀ fault, x.outcome ≠ .error (asError fault)) →
      ((next x.outcome).run scope).Persists .fault ((next x.outcome).run scope'))
    (hfault : ∀ fault, (next (.error (asError fault))).EndsIn fault) :
    ((next x.outcome).run scope).Persists .fault ((next x'.outcome).run scope') := by
  rcases hx with ⟨path, limit, hcut⟩ | hsame
  · left
    rw [hcut]
    exact ⟨path, limit, (hfault _).run_outcome scope⟩
  · rw [← hsame]
    by_cases h : ∃ fault, x.outcome = .error (asError fault)
    · obtain ⟨fault, houtcome⟩ := h
      right
      rw [houtcome, (hfault fault).run_outcome, (hfault fault).run_outcome]
    · exact hverdict (not_exists.mp h)

/-- A program that hands on faults persists. -/
theorem persists_run {program : Program Descriptor} (h : program.HandsOn own) :
    (program.run scope).Persists .fault (program.run { scope with below := below' }) := by
  induction program with
  | answer outcome => exact .refl _
  | note n next ih =>
    cases h with
    | note _ hnext => exact ih hnext
  | knows name next ih =>
    cases h with
    | knows _ hnext => exact ih _ (hnext _)
  | check key v target next ih =>
    cases h with
    | check _ _ htarget hverdict hfault =>
      have hcheck := Scope.persists_check hbelow hknown key v htarget
      exact persists_request hcheck (fun houtcome => ih _ (hverdict _ houtcome)) hfault
  | conforms v target next ih =>
    cases h with
    | conforms _ htarget hverdict hfault =>
      have hconforms := Scope.persists_conforms hbelow hknown v htarget
      refine persists_request hconforms (fun houtcome => ?_) hfault
      cases hanswer : (scope.conforms v target).outcome with
      | ok verdict => exact ih _ (hverdict verdict)
      | error fault => exact absurd hanswer (houtcome fault)

end Program

theorem Guard.persists_call {g : Guard Descriptor} (hg : g.HandsOn own) (v : Value) :
    (g.call scope v).Persists .fault (g.call { scope with below := below' } v) :=
  Program.persists_run hbelow hknown (hg v scope.path)

/-- One step of assert mode persists if the level below does. -/
theorem Scope.persists_here (v : Value) {d : Descriptor}
    (hguards : d.AllGuards (Guard.HandsOn own)) :
    (scope.assertHere v d).Persists .fault ({ scope with below := below' }.assertHere v d) := by
  refine related_here Eval.Persists.compositional below' ?_ ?_ ?_ v hguards
  · intro x e key he
    exact (hbelow x e (scope.place key) he).1
  · intro x e he
    exact (hbelow x e scope.path he).2.mapError
  · intro g x hg
    exact Guard.persists_call hbelow hknown hg x

end Guards

namespace Validator

-- ════════════════════════════════════════════════════════════════════════
-- Levels
-- ════════════════════════════════════════════════════════════════════════

section Levels

variable {va va' : Validator} {v : Value} {d : Descriptor}

/-- Beyond the smaller limit both modes are cut off. -/
theorem persists_beyond {depth : Nat} (hdepth : va.maxDepth < depth) (path : Path) :
    ((va.levelAt depth).assert v d path).Persists .fault ((va'.levelAt depth).assert v d path) ∧
    ((va.levelAt depth).accepts v d path).Persists id ((va'.levelAt depth).accepts v d path) := by
  rw [levelAt_of_lt hdepth]
  exact ⟨.inl ⟨path, va.maxDepth, rfl⟩, .inl ⟨path, va.maxDepth, rfl⟩⟩

/-- Within the smaller limit both modes persist if the step of assert mode does. -/
theorem persists_within (hnames : va'.known = va.known) (hle : va.maxDepth ≤ va'.maxDepth)
    {depth : Nat} (hdepth : depth ≤ va.maxDepth) {path : Path}
    (hstep : ((va.scopeAt path depth).assertHere v d).Persists .fault
      ({ va.scopeAt path depth with below := va'.levelAt (depth + 1) }.assertHere v d)) :
    ((va.levelAt depth).assert v d path).Persists .fault ((va'.levelAt depth).assert v d path) ∧
    ((va.levelAt depth).accepts v d path).Persists id ((va'.levelAt depth).accepts v d path) := by
  have hassert : ((va.levelAt depth).assert v d path).Persists .fault
      ((va'.levelAt depth).assert v d path) := by
    rw [Eval.Persists, Eval.CutOff, outcome_assert_of_le hdepth,
      outcome_assert_of_le (Nat.le_trans hdepth hle)]
    have hscope' : va'.scopeAt path depth =
        { va.scopeAt path depth with below := va'.levelAt (depth + 1) } := by
      rw [scopeAt, scopeAt, hnames]
    rw [hscope']
    exact hstep
  exact ⟨hassert, (va.level_agrees _ v d path).persists (va'.level_agrees _ v d path) hassert⟩

/-- Both modes persist at every depth under a greater limit. -/
theorem persists_level (hnames : va'.known = va.known) (hle : va.maxDepth ≤ va'.maxDepth)
    (hknown : ∀ name d, va.known name = some d → d.AllGuards (Guard.HandsOn own)) (depth : Nat) :
    (va.levelAt depth).PersistsIn own (va'.levelAt depth) := by
  induction depth using va.depth_induction with
  | beyond depth hdepth => exact fun v d path _ => persists_beyond hdepth path
  | within depth hdepth ih =>
    intro v d path hguards
    exact persists_within hnames hle hdepth (Scope.persists_here ih hknown v hguards)

/-- Where no guard stands in a descriptor both modes persist as well, whatever the guards do that
    are known by name. -/
theorem persists_of_guardFree (hnames : va'.known = va.known) (hle : va.maxDepth ≤ va'.maxDepth)
    (depth : Nat) (v : Value) (d : Descriptor) (path : Path) (hfree : d.GuardFree) :
    ((va.levelAt depth).assert v d path).Persists .fault ((va'.levelAt depth).assert v d path) ∧
    ((va.levelAt depth).accepts v d path).Persists id ((va'.levelAt depth).accepts v d path) := by
  induction depth using va.depth_induction generalizing v d path with
  | beyond depth hdepth => exact persists_beyond hdepth path
  | within depth hdepth ih =>
    refine persists_within hnames hle hdepth ?_
    refine Scope.related_here Eval.Persists.compositional _ ?_ ?_ ?_ v hfree
    · intro x e key he
      exact (ih x e _ he).1
    · intro x e he
      exact (ih x e path he).2.mapError
    · intro g x hg
      exact hg.elim

/-- Without guards, what is accepted conforms, however small the limit is. -/
theorem conforms_of_assert (verdict : Guard Descriptor → Value → Bool) {depth : Nat} {path : Path}
    (hfree : d.GuardFree) (h : ((va.levelAt depth).assert v d path).outcome = .ok ()) :
    Conforms verdict v d := by
  -- a limit at which the descriptor is decided, and which cannot turn the answer
  let va' : Validator := { va with maxDepth := max va.maxDepth (d.height + depth) }
  have hnames : va'.known = va.known := rfl
  have hle : va.maxDepth ≤ va'.maxDepth := Nat.le_max_left _ _
  have hpersists := (persists_of_guardFree hnames hle depth v d path hfree).1
  have hnot : ¬ ((va.levelAt depth).assert v d path).CutOff .fault := by
    rintro ⟨place, limit, hcut⟩
    cases h.symm.trans hcut
  have hok : ((va'.levelAt depth).assert v d path).outcome = .ok () :=
    (hpersists.outcome_eq hnot).trans h
  have haccepts := (va'.level_agrees _ v d path).outcomes.accepted_iff.mpr hok
  have hguards : d.AllGuards fun g => g.Answers va' (verdict g) := hfree.allGuards
  have hdecides := decides_conforms depth v d path hguards (Nat.le_max_right _ _)
  exact hdecides.outcome_eq_true_iff.mp haccepts

end Levels

-- ════════════════════════════════════════════════════════════════════════
-- Main results
-- ════════════════════════════════════════════════════════════════════════

variable {va : Validator} {v : Value} {d : Descriptor}

/-- A fault about the depth that ends an assertion carries the limit and the path of a place that
    was entered beyond it, unless a guard made it up. -/
theorem depthExceeded_bounds (hguards : va.HandsOn Fault.IsGuards d) {path : Path} {limit : Nat}
    (h : (va.assert v d).outcome = .error (.fault (.depthExceeded path limit))) :
    limit = va.maxDepth ∧ path.length ≤ va.maxDepth + 1 := by
  have hassert := (va.accounts_level (fun _ => trivial) hguards.known 0 v d .root hguards.guards).1
  rcases hassert.origin _ h with hown | ⟨place, depth, hentered, hdepth, hfault⟩
  · exact hown.elim
  · cases hfault
    have hbounds := va.entered_bounds (Nat.zero_le _) (Nat.zero_le _) (.inl hentered)
    exact ⟨rfl, Nat.le_trans hbounds.1 hbounds.2⟩

/-- Without guards and within the limit there is a verdict. -/
theorem no_fault_of_guardFree (hfree : d.GuardFree) (hheight : d.height ≤ va.maxDepth)
    (fault : Fault) : (va.accepts v d).outcome ≠ .error fault := by
  have hguards : d.AllGuards fun g => g.Answers va ((fun _ _ => false) g) := hfree.allGuards
  obtain ⟨verdict, hverdict, -⟩ := decides_conforms 0 v d .root hguards hheight
  intro hfault
  cases hverdict.symm.trans hfault

/-- The limit only ever cuts an evaluation off. If the guards hand on faults and make up none about
    the depth, an evaluation that is not cut off ends alike under every greater limit, so one that
    is cut off is cut off under every smaller limit. Without guards and within the height no fault
    ends an evaluation. A fault about the depth carries the limit and a path of at most one key
    more; a place that is entered beyond the limit has such a path, whatever the guards do. -/
theorem limit_only_cuts_off {va' : Validator} (v : Value) (d : Descriptor)
    (hnames : va'.known = va.known) (hle : va.maxDepth ≤ va'.maxDepth)
    (hguards : va.HandsOn Fault.IsGuards d) :
    ((¬ (va.assert v d).CutOff .fault → (va'.assert v d).outcome = (va.assert v d).outcome) ∧
      (¬ (va.accepts v d).CutOff id → (va'.accepts v d).outcome = (va.accepts v d).outcome)) ∧
    (((va'.assert v d).CutOff .fault → (va.assert v d).CutOff .fault) ∧
      ((va'.accepts v d).CutOff id → (va.accepts v d).CutOff id)) ∧
    (∀ w e, e.GuardFree → e.height ≤ va.maxDepth → ∀ fault,
      (va.assert w e).outcome ≠ .error (.fault fault) ∧
      (va.accepts w e).outcome ≠ .error fault) ∧
    (∀ path limit,
      (va.assert v d).outcome = .error (.fault (.depthExceeded path limit)) ∨
        (va.accepts v d).outcome = .error (.depthExceeded path limit) →
      limit = va.maxDepth ∧ path.length ≤ va.maxDepth + 1) ∧
    (∀ w e path depth fault,
      .entered path depth ∈ (va.assert w e).events ∨
        .entered path depth ∈ (va.accepts w e).events →
      (Event.entered path depth).raised? va.maxDepth = some fault →
      fault = .depthExceeded path va.maxDepth ∧ path.length ≤ va.maxDepth + 1) := by
  obtain ⟨hassert, haccepts⟩ :=
    persists_level hnames hle hguards.known 0 v d .root hguards.guards
  refine ⟨⟨hassert.outcome_eq, haccepts.outcome_eq⟩, ⟨hassert.cutOff, haccepts.cutOff⟩,
    ?_, ?_, ?_⟩
  · intro w e hfree hheight fault
    have hnone : (va.accepts w e).outcome ≠ .error fault :=
      no_fault_of_guardFree hfree hheight fault
    have hsame := (va.agree_whole w e).outcomes
    exact ⟨fun hfault => hnone ((hsame.faulted_iff fault).mpr hfault), hnone⟩
  · intro path limit h
    have hsame := (va.agree_whole v d).outcomes
    rcases h with h | h
    · exact depthExceeded_bounds hguards h
    · exact depthExceeded_bounds hguards ((hsame.faulted_iff _).mp h)
  · intro w e path depth fault hentered hraised
    have hbounds := va.entered_bounds (Nat.zero_le _) (Nat.zero_le _) hentered
    rw [Event.raised?] at hraised
    split at hraised
    · exact ⟨(Option.some.inj hraised).symm, Nat.le_trans hbounds.1 hbounds.2⟩
    · cases hraised

/-- Texts, each of which is looked at by a guard that asks one level further down. -/
def guardedTexts : Descriptor :=
  .arrayOf (.guard ⟨some "text", none, fun v _ =>
    .require none v (.inline (.primitive .string)) .accept⟩)

/-- Two levels suffice to report that the second item is no text, so more of them change nothing;
    with one level the evaluation is cut off at the first item already. -/
theorem limit_only_cuts_off_guardedTexts :
    HandsOn ⟨2, fun _ => none⟩ Fault.IsGuards guardedTexts ∧
    (assert ⟨256, fun _ => none⟩ (.array [.string "a", .null]) guardedTexts).outcome =
      .error (.invalidType ⟨⟨[.index 1]⟩, "string", some "null"⟩) ∧
    (assert ⟨1, fun _ => none⟩ (.array [.string "a", .null]) guardedTexts).CutOff .fault ∧
    (assert ⟨0, fun _ => none⟩ (.array [.string "a", .null]) guardedTexts).CutOff .fault := by
  have hguards : guardedTexts.AllGuards (Guard.HandsOn Fault.IsGuards) := by
    refine Descriptor.allGuards_arrayOf.mpr (Descriptor.allGuards_guard.mpr fun v path => ?_)
    refine .require none v ?_ .accept
    rintro d ⟨⟩
    exact Descriptor.allGuards_primitive .string
  have hands (limit : Nat) : HandsOn ⟨limit, fun _ => none⟩ Fault.IsGuards guardedTexts :=
    ⟨hguards, fun _ _ h => nomatch h⟩
  have htwo : (assert ⟨2, fun _ => none⟩ (.array [.string "a", .null]) guardedTexts).outcome =
      .error (.invalidType ⟨⟨[.index 1]⟩, "string", some "null"⟩) := rfl
  have hone : (assert ⟨1, fun _ => none⟩ (.array [.string "a", .null]) guardedTexts).CutOff
      .fault := ⟨⟨[.index 0]⟩, 1, rfl⟩
  have hnames (limit limit' : Nat) :
      (⟨limit', fun _ => none⟩ : Validator).known = (⟨limit, fun _ => none⟩ : Validator).known :=
    rfl
  refine ⟨hands 2, ?_, hone, ?_⟩
  · have hmore := limit_only_cuts_off (.array [.string "a", .null]) guardedTexts (hnames 2 256)
      (by decide) (hands 2)
    refine (hmore.1.1 ?_).trans htwo
    rintro ⟨path, limit, hcut⟩
    cases htwo.symm.trans hcut
  · have hless := limit_only_cuts_off (.array [.string "a", .null]) guardedTexts (hnames 0 1)
      (by decide) (hands 0)
    exact hless.2.1.1 hone

end Validator

end Conform
