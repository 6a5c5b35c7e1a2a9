import Conform.Evaluation.Modes

/-!
# Laws of evaluations

How outcomes and histories behave under the combinators an evaluation is built from, and the
recursive equations of the two modes. Later modules reason with these laws and leave the
definitions closed.

## Main definitions

- `Validator.scopeAt` — the scope of a guard that is called at a depth

## Main results

- `Eval.outcome_bind_eq_error` — where the error of a sequence came from
- `Eval.outcome_forM_eq_ok_iff`, `Eval.outcome_forM_eq_error_iff` — how a loop ends
- `Validator.levelAt_of_le`, `Validator.levelAt_of_lt` — one level of either mode
- `Validator.depth_induction` — induction from the limit upwards
-/

namespace Conform

namespace Eval

variable {ε ε' α β : Type}

-- ════════════════════════════════════════════════════════════════════════
-- Sequences
-- ════════════════════════════════════════════════════════════════════════

@[simp] theorem outcome_pure (a : α) : (pure a : Eval ε α).outcome = .ok a := rfl

@[simp] theorem events_pure (a : α) : (pure a : Eval ε α).events = [] := rfl

/-- After a result the events of the rest are appended. -/
@[simp] theorem mk_ok_bind (events : List Event) (a : α) (f : α → Eval ε β) :
    (⟨events, .ok a⟩ : Eval ε α) >>= f = ⟨events ++ (f a).events, (f a).outcome⟩ := rfl

/-- After an error there is no rest. -/
@[simp] theorem mk_error_bind (events : List Event) (e : ε) (f : α → Eval ε β) :
    (⟨events, .error e⟩ : Eval ε α) >>= f = ⟨events, .error e⟩ := rfl

/-- Renaming errors leaves a result as it is. -/
@[simp] theorem mk_ok_mapError (events : List Event) (a : α) (g : ε → ε') :
    (⟨events, .ok a⟩ : Eval ε α).mapError g = ⟨events, .ok a⟩ := rfl

@[simp] theorem emit_bind (event : Event) (f : Unit → Eval ε β) :
    (emit event : Eval ε Unit) >>= f = ⟨event :: (f ()).events, (f ()).outcome⟩ := rfl

/-- The outcome of a sequence does not depend on its history. -/
theorem outcome_bind (x : Eval ε α) (f : α → Eval ε β) :
    (x >>= f).outcome = x.outcome >>= fun a => (f a).outcome := by
  obtain ⟨events, outcome⟩ := x
  cases outcome <;> rfl

/-- A sequence ends in an error of its first part, or in one of the rest. -/
theorem outcome_bind_eq_error {x : Eval ε α} {f : α → Eval ε β} {e : ε} :
    (x >>= f).outcome = .error e ↔
      x.outcome = .error e ∨ ∃ a, x.outcome = .ok a ∧ (f a).outcome = .error e := by
  obtain ⟨events, outcome⟩ := x
  cases outcome <;> simp

-- ════════════════════════════════════════════════════════════════════════
-- Loops
-- ════════════════════════════════════════════════════════════════════════

/-- A loop ends as its first round does if that fails, and else as the rest does. -/
theorem outcome_forM_cons (x : α) (xs : List α) (f : α → Eval ε PUnit) :
    ((x :: xs).forM f).outcome = (f x).outcome >>= fun _ => (xs.forM f).outcome :=
  outcome_bind _ _

/-- A loop succeeds if every round does. -/
theorem outcome_forM_eq_ok_iff {xs : List α} {f : α → Eval ε PUnit} :
    (xs.forM f).outcome = .ok ⟨⟩ ↔ ∀ x ∈ xs, (f x).outcome = .ok ⟨⟩ := by
  induction xs with
  | nil => exact ⟨fun _ _ h => (nomatch h), fun _ => rfl⟩
  | cons x xs ih =>
    rw [outcome_forM_cons, List.forall_mem_cons, ← ih]
    cases (f x).outcome with
    | ok _ => exact ⟨fun h => ⟨rfl, h⟩, fun h => h.2⟩
    | error e => exact ⟨fun h => (nomatch h), fun h => (nomatch h.1)⟩

/-- A loop ends in the error of its first failing round. -/
theorem outcome_forM_eq_error_iff {xs : List α} {f : α → Eval ε PUnit} {e : ε} :
    (xs.forM f).outcome = .error e ↔ ∃ before x after, xs = before ++ x :: after ∧
      (∀ y ∈ before, (f y).outcome = .ok ⟨⟩) ∧ (f x).outcome = .error e := by
  constructor
  · intro h
    induction xs with
    | nil => cases h
    | cons x xs ih =>
      rw [outcome_forM_cons] at h
      match hx : (f x).outcome with
      | .error e' =>
        rw [hx] at h
        cases h
        exact ⟨[], x, xs, rfl, fun _ hy => (nomatch hy), hx⟩
      | .ok _ =>
        rw [hx] at h
        obtain ⟨before, y, after, rfl, hbefore, hy⟩ := ih h
        exact ⟨x :: before, y, after, rfl, List.forall_mem_cons.mpr ⟨hx, hbefore⟩, hy⟩
  · rintro ⟨before, x, after, rfl, hbefore, hx⟩
    induction before with
    | nil =>
      show ((x :: after).forM f).outcome = _
      rw [outcome_forM_cons, hx]
      rfl
    | cons y before ih =>
      obtain ⟨hy, hbefore⟩ := List.forall_mem_cons.mp hbefore
      show ((y :: (before ++ x :: after)).forM f).outcome = _
      rw [outcome_forM_cons, hy]
      exact ih hbefore

/-- A loop ends in the error of one of its rounds. -/
theorem outcome_forM_eq_error {xs : List α} {f : α → Eval ε PUnit} {e : ε}
    (h : (xs.forM f).outcome = .error e) : ∃ x ∈ xs, (f x).outcome = .error e := by
  obtain ⟨before, x, after, rfl, -, hx⟩ := outcome_forM_eq_error_iff.mp h
  exact ⟨x, List.mem_append_right before List.mem_cons_self, hx⟩

/-- What happens in a sequence happens in its first part or in the rest. -/
theorem mem_events_bind {x : Eval ε α} {f : α → Eval ε β} {event : Event}
    (h : event ∈ (x >>= f).events) : event ∈ x.events ∨ ∃ a, event ∈ (f a).events := by
  obtain ⟨events, outcome⟩ := x
  cases outcome with
  | ok a =>
    rcases List.mem_append.mp h with hx | hf
    · exact .inl hx
    · exact .inr ⟨a, hf⟩
  | error e => exact .inl h

/-- A search in which errors are renamed is the search with its error renamed. -/
theorem anyM_mapError (g : ε → ε') (f : α → Eval ε Bool) (xs : List α) :
    (xs.anyM fun x => (f x).mapError g) = (xs.anyM f).mapError g := by
  induction xs with
  | nil => rfl
  | cons x xs ih =>
    simp only [List.anyM, ih]
    rcases f x with ⟨events, _ | _ | _⟩ <;> rfl

/-- A check of all in which errors are renamed is the check with its error renamed. -/
theorem allM_mapError (g : ε → ε') (f : α → Eval ε Bool) (xs : List α) :
    (xs.allM fun x => (f x).mapError g) = (xs.allM f).mapError g := by
  induction xs with
  | nil => rfl
  | cons x xs ih =>
    simp only [List.allM, ih]
    rcases f x with ⟨events, _ | _ | _⟩ <;> rfl

end Eval

/-- A program that asserts goes on with the outcome of the assertion, whatever it is. -/
theorem Program.run_check (scope : Scope) (key : Option PropertyKey) (v : Value)
    (target : Target Descriptor) (next : Except Failure Unit → Program Descriptor) :
    (check key v target next).run scope =
      ⟨(scope.check key v target).events ++
          ((next (scope.check key v target).outcome).run scope).events,
        ((next (scope.check key v target).outcome).run scope).outcome⟩ := rfl

/-- A program that asks goes on with the outcome of the question, whatever it is. -/
theorem Program.run_conforms (scope : Scope) (v : Value) (target : Target Descriptor)
    (next : Except Fault Bool → Program Descriptor) :
    (conforms v target next).run scope =
      ⟨(scope.conforms v target).events ++
          ((next (scope.conforms v target).outcome).run scope).events,
        ((next (scope.conforms v target).outcome).run scope).outcome⟩ := rfl

/-- A call of a guard is recorded, then what its program does, and then its end. -/
theorem Guard.call_eq (g : Guard Descriptor) (scope : Scope) (v : Value) :
    g.call scope v =
      ⟨.called g v scope.path scope.depth :: (((g.body v scope.path).run scope).events ++
        [.returned ((g.body v scope.path).run scope).outcome]),
        ((g.body v scope.path).run scope).outcome⟩ := rfl

namespace Validator

/-- What a guard that is called at a path and a depth sees. -/
def scopeAt (va : Validator) (path : Path) (depth : Nat) : Scope :=
  ⟨va.known, va.levelAt (depth + 1), path, depth⟩

/-- Within the limit both modes look at the descriptor, with the next level below them. -/
theorem levelAt_of_le {va : Validator} {depth : Nat} (h : depth ≤ va.maxDepth) :
    va.levelAt depth = {
      assert := fun v d path => do
        Eval.emit (.entered path depth)
        Scope.assertHere (va.scopeAt path depth) v d
      accepts := fun v d path => do
        Eval.emit (.entered path depth)
        Scope.acceptsHere (va.scopeAt path depth) v d } := by
  have hleft : va.maxDepth + 1 - depth = (va.maxDepth - depth) + 1 := by omega
  have hdepth : va.maxDepth - (va.maxDepth - depth) = depth := by omega
  have hbelow : va.levelAt (depth + 1) = va.level (va.maxDepth - depth) := by
    rw [levelAt, Nat.add_sub_add_right]
  simp only [scopeAt, hbelow]
  rw [levelAt, hleft, level, hdepth]

/-- Within the limit the outcome of an assertion is that of its step. -/
theorem outcome_assert_of_le {va : Validator} {depth : Nat} (h : depth ≤ va.maxDepth) (v : Value)
    (d : Descriptor) (path : Path) :
    ((va.levelAt depth).assert v d path).outcome =
      ((va.scopeAt path depth).assertHere v d).outcome := by
  rw [levelAt_of_le h]
  rfl

/-- Within the limit the outcome of a question is that of its step. -/
theorem outcome_accepts_of_le {va : Validator} {depth : Nat} (h : depth ≤ va.maxDepth) (v : Value)
    (d : Descriptor) (path : Path) :
    ((va.levelAt depth).accepts v d path).outcome =
      ((va.scopeAt path depth).acceptsHere v d).outcome := by
  rw [levelAt_of_le h]
  rfl

/-- Beyond the limit both modes end in a fault. -/
theorem levelAt_of_lt {va : Validator} {depth : Nat} (h : va.maxDepth < depth) :
    va.levelAt depth = va.level 0 := by
  rw [levelAt, Nat.sub_eq_zero_of_le h]

/-- What is accepted is accepted within the limit. -/
theorem le_of_assert {va : Validator} {depth : Nat} {v : Value} {d : Descriptor} {path : Path}
    (h : ((va.levelAt depth).assert v d path).outcome = .ok ()) : depth ≤ va.maxDepth := by
  rcases Nat.lt_or_ge va.maxDepth depth with hbeyond | hwithin
  · rw [levelAt_of_lt hbeyond] at h
    cases h
  · exact hwithin

/-- Induction from the limit upwards: what holds beyond the limit, and at every depth within it
    below which it holds, holds at every depth. -/
theorem depth_induction (va : Validator) {motive : Nat → Prop}
    (beyond : ∀ depth, va.maxDepth < depth → motive depth)
    (within : ∀ depth, depth ≤ va.maxDepth → motive (depth + 1) → motive depth)
    (depth : Nat) : motive depth := by
  -- the levels that are left grow fewer as the depth grows
  generalize hleft : va.maxDepth + 1 - depth = left
  induction left generalizing depth with
  | zero => exact beyond depth (by omega)
  | succ left ih => exact within depth (by omega) (ih (depth + 1) (by omega))

end Validator

end Conform
