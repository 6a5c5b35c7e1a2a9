import Mathlib.Data.List.Chain
import Conform.Proofs.Evaluation.Agreement
import Conform.Proofs.Evaluation.Steps

/-!
# Runs, depths and paths

A run of either mode makes further runs: for the items of an array, the fields of a shape and the
members of a combinator, and for every request of a guard, be it about a descriptor given in place
or about one known by name. Each of them goes one level down and adds at most one key to the path,
so a path is never longer than the depth of its run, and no run takes place more than one level
beyond the limit, whatever the guards do.

## Main definitions

- `Program.MayAsk` — the requests that a program can make
- `Run`, `Run.Makes` — what is evaluated and where, and the runs that this can lead to at once
- `Run.Reaches` — the runs that this can lead to
- `Run.Enters` — a place is entered in the course of a run

## Main results

- `Run.Makes.wellFounded` — runs are not nested without end
- `Run.reaches_of_enters` — whatever is entered, some run does it
- `Run.Reaches.inBounds` — the depth and the path of every run
- `Validator.entered_bounds` — depth and path of every place that is entered, in both modes
-/

namespace Conform

@[simp] theorem Path.length_child (p : Path) (key : PropertyKey) :
    (p.child key).length = p.length + 1 := by
  simp [length, child]

theorem Scope.length_place_le (scope : Scope) (key : Option PropertyKey) :
    (scope.place key).length ≤ scope.path.length + 1 := by
  cases key with
  | none => exact Nat.le_succ _
  | some key => exact Nat.le_of_eq (Path.length_child scope.path key)

/-- A program can come to make a request, depending on what it is told before: at its own place or
    one key below it, about a value and a descriptor. -/
inductive Program.MayAsk (key : Option PropertyKey) (v : Value) (target : Target Descriptor) :
    Program Descriptor → Prop
  | check {next : Except Failure Unit → Program Descriptor} :
      MayAsk key v target (.check key v target next)
  | conforms {next : Except Fault Bool → Program Descriptor} (hkey : key = none) :
      MayAsk key v target (.conforms v target next)
  | note (n : Note) {next : Program Descriptor} (h : MayAsk key v target next) :
      MayAsk key v target (.note n next)
  | knows (name : String) {next : Bool → Program Descriptor} (isKnown : Bool)
      (h : MayAsk key v target (next isKnown)) : MayAsk key v target (.knows name next)
  | afterCheck (key' : Option PropertyKey) (v' : Value) (target' : Target Descriptor)
      {next : Except Failure Unit → Program Descriptor} (outcome : Except Failure Unit)
      (h : MayAsk key v target (next outcome)) :
      MayAsk key v target (.check key' v' target' next)
  | afterConforms (v' : Value) (target' : Target Descriptor)
      {next : Except Fault Bool → Program Descriptor} (outcome : Except Fault Bool)
      (h : MayAsk key v target (next outcome)) : MayAsk key v target (.conforms v' target' next)

/-- A run of either mode: what is evaluated, and where. -/
structure Run where
  /-- The value. -/
  value : Value
  /-- The descriptor. -/
  descriptor : Descriptor
  /-- The path of the value. -/
  path : Path
  /-- The depth of the run. -/
  depth : Nat

namespace Run

/-- The run on a whole value. -/
def whole (v : Value) (d : Descriptor) : Run := ⟨v, d, .root, 0⟩

/-- A run within the limit can make another one, in either mode. -/
inductive Makes (va : Validator) : Run → Run → Prop
  | descent {v x : Value} {d e : Descriptor} {path : Path} {depth : Nat}
      {key : Option PropertyKey} (hdepth : depth ≤ va.maxDepth) (h : Descent v d key x e) :
      Makes va ⟨v, d, path, depth⟩ ⟨x, e, (va.scopeAt path depth).place key, depth + 1⟩
  | request {g : Guard Descriptor} {v x : Value} {d : Descriptor} {path : Path} {depth : Nat}
      {key : Option PropertyKey} {target : Target Descriptor} (hdepth : depth ≤ va.maxDepth)
      (h : (g.body v path).MayAsk key x target)
      (hresolve : (va.scopeAt path depth).resolve target = .ok d) :
      Makes va ⟨v, .guard g, path, depth⟩ ⟨x, d, (va.scopeAt path depth).place key, depth + 1⟩

/-- A run can lead to another one. -/
abbrev Reaches (va : Validator) : Run → Run → Prop := Relation.ReflTransGen (Makes va)

variable {va : Validator} {r r' : Run}

-- ════════════════════════════════════════════════════════════════════════
-- One level down
-- ════════════════════════════════════════════════════════════════════════

theorem Makes.depth_le (h : r.Makes va r') : r.depth ≤ va.maxDepth := by
  cases h <;> assumption

theorem Makes.depth_eq (h : r.Makes va r') : r'.depth = r.depth + 1 := by
  cases h <;> rfl

theorem Makes.length_le (h : r.Makes va r') : r'.path.length ≤ r.path.length + 1 := by
  cases h <;> exact Scope.length_place_le _ _

/-- Runs are not nested without end: only so many levels are left. -/
theorem Makes.wellFounded (va : Validator) : WellFounded fun r' r : Run => r.Makes va r' := by
  have hleft {r' r : Run} (h : r.Makes va r') :
      va.maxDepth + 1 - r'.depth < va.maxDepth + 1 - r.depth := by
    have hle := h.depth_le
    have heq := h.depth_eq
    omega
  exact Subrelation.wf hleft (measure fun r : Run => va.maxDepth + 1 - r.depth).wf

/-- A path no longer than the depth, and a depth of at most one more than the limit. -/
structure InBounds (va : Validator) (r : Run) : Prop where
  path : r.path.length ≤ r.depth
  depth : r.depth ≤ va.maxDepth + 1

theorem Makes.inBounds (h : r.Makes va r') (hr : r.InBounds va) : r'.InBounds va := by
  have hle := h.depth_le
  have heq := h.depth_eq
  have hlength := h.length_le
  have hpath := hr.path
  exact ⟨by omega, by omega⟩

theorem Reaches.inBounds (h : r.Reaches va r') (hr : r.InBounds va) : r'.InBounds va := by
  induction h with
  | refl => exact hr
  | tail _ hmakes ih => exact hmakes.inBounds ih

theorem inBounds_whole (v : Value) (d : Descriptor) : (whole v d).InBounds va :=
  ⟨Nat.le_refl 0, Nat.zero_le _⟩

/-- Nested runs are no more than there are levels from the first of them on. -/
theorem length_le_of_isChain {rs : List Run} (hr : r.depth ≤ va.maxDepth + 1)
    (h : List.IsChain (Makes va) (r :: rs)) : r.depth + rs.length ≤ va.maxDepth + 1 := by
  induction rs generalizing r with
  | nil => exact hr
  | cons r' rs ih =>
    obtain ⟨hmakes, hrest⟩ := List.isChain_cons_cons.mp h
    have hle := hmakes.depth_le
    have heq := hmakes.depth_eq
    have hlength := ih (by omega) hrest
    rw [List.length_cons]
    omega

end Run

-- ════════════════════════════════════════════════════════════════════════
-- What is entered
-- ════════════════════════════════════════════════════════════════════════

/-- A place is entered in the course of an evaluation, in either mode. -/
def Level.Enters (level : Level) (v : Value) (d : Descriptor) (place path : Path) (depth : Nat) :
    Prop :=
  .entered path depth ∈ (level.assert v d place).events ∨
    .entered path depth ∈ (level.accepts v d place).events

/-- A place is entered in the course of a run, in either mode. -/
def Run.Enters (va : Validator) (r : Run) (path : Path) (depth : Nat) : Prop :=
  (va.levelAt r.depth).Enters r.value r.descriptor r.path path depth

variable {va : Validator} {scope : Scope} {path : Path} {depth : Nat}

theorem Scope.enters_of_check {key : Option PropertyKey} {v : Value} {target : Target Descriptor}
    (h : .entered path depth ∈ (scope.check key v target).events) :
    ∃ d, scope.resolve target = .ok d ∧
      scope.below.Enters v d (scope.place key) path depth := by
  rw [check] at h
  cases hresolve : scope.resolve target with
  | ok d =>
    rw [hresolve] at h
    exact ⟨d, rfl, .inl h⟩
  | error fault =>
    rw [hresolve] at h
    cases h

theorem Scope.enters_of_conforms {v : Value} {target : Target Descriptor}
    (h : .entered path depth ∈ (scope.conforms v target).events) :
    ∃ d, scope.resolve target = .ok d ∧
      scope.below.Enters v d (scope.place none) path depth := by
  rw [conforms] at h
  cases hresolve : scope.resolve target with
  | ok d =>
    rw [hresolve] at h
    exact ⟨d, rfl, .inr h⟩
  | error fault =>
    rw [hresolve] at h
    cases h

/-- A program enters places by its requests alone. -/
theorem Program.enters_of_run {program : Program Descriptor}
    (h : .entered path depth ∈ (program.run scope).events) :
    ∃ key x target d, program.MayAsk key x target ∧ scope.resolve target = .ok d ∧
      scope.below.Enters x d (scope.place key) path depth := by
  induction program with
  | answer outcome => cases h
  | note n next ih =>
    rcases List.mem_cons.mp h with hnote | hnext
    · cases hnote
    · obtain ⟨key, x, target, d, hask, hrest⟩ := ih hnext
      exact ⟨key, x, target, d, .note n hask, hrest⟩
  | knows name next ih =>
    obtain ⟨key, x, target, d, hask, hrest⟩ := ih _ h
    exact ⟨key, x, target, d, .knows name _ hask, hrest⟩
  | check key v target next ih =>
    rw [run_check] at h
    rcases List.mem_append.mp h with hcheck | hnext
    · obtain ⟨d, hrest⟩ := Scope.enters_of_check hcheck
      exact ⟨key, v, target, d, .check, hrest⟩
    · obtain ⟨key', x, target', d, hask, hrest⟩ := ih _ hnext
      exact ⟨key', x, target', d, .afterCheck key v target _ hask, hrest⟩
  | conforms v target next ih =>
    rw [run_conforms] at h
    rcases List.mem_append.mp h with hconforms | hnext
    · obtain ⟨d, hrest⟩ := Scope.enters_of_conforms hconforms
      exact ⟨none, v, target, d, .conforms rfl, hrest⟩
    · obtain ⟨key', x, target', d, hask, hrest⟩ := ih _ hnext
      exact ⟨key', x, target', d, .afterConforms v target _ hask, hrest⟩

namespace Run

/-- Whatever is entered in an evaluation is entered in the course of a run that a given one can
    make. -/
def Covers {α : Type} (va : Validator) (r : Run) (x : Eval Failure α) : Prop :=
  ∀ path depth, .entered path depth ∈ x.events →
    ∃ r', r.Makes va r' ∧ r'.Enters va path depth

theorem compositional_covers (va : Validator) (r : Run) :
    Eval.Compositional fun _ x _ => r.Covers va x where
  pure _ _ _ h := nomatch h
  rejectType _ _ _ _ _ h := nomatch List.mem_singleton.mp h
  rejectAbsent _ _ _ _ h := nomatch List.mem_singleton.mp h
  bind hx hf path depth h := by
    rcases Eval.mem_events_bind h with hfirst | ⟨a, hrest⟩
    · exact hx path depth hfirst
    · exact hf a path depth hrest

variable {v : Value} {place : Path} {level : Nat}

theorem covers_call (hlevel : level ≤ va.maxDepth) (g : Guard Descriptor) :
    Covers va ⟨v, .guard g, place, level⟩ (g.call (va.scopeAt place level) v) := by
  intro path depth h
  rw [Guard.call_eq] at h
  rcases List.mem_cons.mp h with hcalled | h
  · cases hcalled
  rcases List.mem_append.mp h with hrun | hreturned
  · obtain ⟨key, x, target, d, hask, hresolve, henters⟩ := Program.enters_of_run hrun
    exact ⟨_, .request hlevel hask hresolve, henters⟩
  · cases List.mem_singleton.mp hreturned

/-- One step of assert mode enters places by the runs that it makes. -/
theorem covers_assertHere (hlevel : level ≤ va.maxDepth) (d : Descriptor) :
    Covers va ⟨v, d, place, level⟩ ((va.scopeAt place level).assertHere v d) := by
  refine Scope.related_of_descents (compositional_covers va ⟨v, d, place, level⟩)
    (va.levelAt (level + 1)) ?_ ?_ ?_
  · intro key x e hdescent path depth h
    exact ⟨_, .descent hlevel hdescent, .inl h⟩
  · intro x e hdescent path depth h
    exact ⟨_, .descent hlevel hdescent, .inr h⟩
  · rintro g rfl
    exact covers_call hlevel g

variable {r : Run}

/-- A run enters its own place, and whatever the runs enter that it makes. -/
theorem enters_cases (hr : r.depth ≤ va.maxDepth + 1) (h : r.Enters va path depth) :
    (r.path = path ∧ r.depth = depth) ∨ ∃ r', r.Makes va r' ∧ r'.Enters va path depth := by
  -- predicate mode walks the same way
  have hassert : .entered path depth ∈
      ((va.levelAt r.depth).assert r.value r.descriptor r.path).events := by
    rcases h with h | h
    · exact h
    · exact Eval.mem_events_of_walk_eq (va.level_agrees _ _ _ _).walk_eq.symm rfl h
  rcases Nat.lt_or_ge va.maxDepth r.depth with hbeyond | hwithin
  · rw [Validator.levelAt_of_lt hbeyond] at hassert
    cases List.mem_singleton.mp hassert
    exact .inl ⟨rfl, by omega⟩
  · rw [Validator.levelAt_of_le hwithin] at hassert
    rcases List.mem_cons.mp hassert with hhere | hbelow
    · cases hhere
      exact .inl ⟨rfl, rfl⟩
    · exact .inr (covers_assertHere hwithin _ path depth hbelow)

/-- Whatever is entered in the course of a run is entered by a run that it leads to. -/
theorem reaches_of_enters (hr : r.depth ≤ va.maxDepth + 1) (h : r.Enters va path depth) :
    ∃ r', r.Reaches va r' ∧ r'.path = path ∧ r'.depth = depth := by
  induction r using (Makes.wellFounded va).induction with
  | h r ih =>
    rcases enters_cases hr h with ⟨hpath, hdepth⟩ | ⟨r', hmakes, henters⟩
    · exact ⟨r, .refl, hpath, hdepth⟩
    · have hle := hmakes.depth_le
      have heq := hmakes.depth_eq
      obtain ⟨last, hreaches, hlast⟩ := ih r' hmakes (by omega) henters
      exact ⟨last, .head hmakes hreaches, hlast⟩

end Run

namespace Validator

/-- The depth and the path of every place that is entered: the path is no longer than the depth,
    and the depth is at most one more than the limit. -/
theorem entered_bounds (va : Validator) {level : Nat} (hlevel : level ≤ va.maxDepth + 1)
    {v : Value} {d : Descriptor} {place : Path} (hplace : place.length ≤ level)
    (h : .entered path depth ∈ ((va.levelAt level).assert v d place).events ∨
      .entered path depth ∈ ((va.levelAt level).accepts v d place).events) :
    path.length ≤ depth ∧ depth ≤ va.maxDepth + 1 := by
  have henters : Run.Enters va ⟨v, d, place, level⟩ path depth := h
  obtain ⟨r, hreaches, rfl, rfl⟩ := Run.reaches_of_enters hlevel henters
  have hbounds := hreaches.inBounds ⟨hplace, hlevel⟩
  exact ⟨hbounds.path, hbounds.depth⟩

end Validator

end Conform
