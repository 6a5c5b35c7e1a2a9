import Mathlib.Algebra.Group.Nat.Defs
import Conform.Proofs.Descriptor.Propagation
import Conform.Proofs.Evaluation.Depth

/-!
# Guards that ask for each other

Descriptors known by name may ask for each other, and for themselves, in circles. Neither the value
nor the descriptor need get smaller on the way, so it is the depth alone that brings an evaluation
to its end. Read as equations over all depths, with no measure to recur on, the two modes still
have exactly one solution; their runs are nested only so deep; and a guard that always comes back
to its own value is told at last that the limit is exceeded.

## Main definitions

- `Validator.overrun`, `Validator.step` — the two modes beyond the limit and within it
- `Validator.Solves` — the equations of the two modes
- `Program.ReEnters` — a program asks for a name on its own value, and hands on the fault

## Main results

- `Validator.Solves.eq_levelAt`, `Validator.exists_solves` — one solution, and the modes are it
- `Validator.AlwaysReEnters.outcome` — a guard that always asks for itself ends in a fault
- `Validator.reentry_is_bounded` — whatever guards ask for, the two modes return
-/

namespace Conform

-- ════════════════════════════════════════════════════════════════════════
-- The equations of the two modes
-- ════════════════════════════════════════════════════════════════════════

namespace Validator

variable {va : Validator} {run : Nat → Level}

/-- The two modes beyond the limit. -/
def overrun (va : Validator) (depth : Nat) : Level where
  assert _ _ path := do
    Eval.emit (.entered path depth)
    Eval.fail (.fault (.depthExceeded path va.maxDepth))
  accepts _ _ path := do
    Eval.emit (.entered path depth)
    Eval.fail (.depthExceeded path va.maxDepth)

/-- The two modes within the limit, where every further run takes place in `next`. -/
def step (va : Validator) (depth : Nat) (next : Level) : Level where
  assert v d path := do
    Eval.emit (.entered path depth)
    Scope.assertHere ⟨va.known, next, path, depth⟩ v d
  accepts v d path := do
    Eval.emit (.entered path depth)
    Scope.acceptsHere ⟨va.known, next, path, depth⟩ v d

/-- The equations of the two modes, in which the depth is counted and nothing gets smaller. -/
structure Solves (va : Validator) (run : Nat → Level) : Prop where
  beyond : ∀ depth, va.maxDepth < depth → run depth = va.overrun depth
  within : ∀ depth, depth ≤ va.maxDepth → run depth = va.step depth (run (depth + 1))

/-- At the depths that a run on a whole value can lead to, the modes are the only solution. -/
theorem Solves.eq_levelAt (h : va.Solves run) {depth : Nat} (hdepth : depth ≤ va.maxDepth + 1) :
    run depth = va.levelAt depth := by
  induction depth using va.depth_induction with
  | beyond depth hbeyond =>
    obtain rfl : depth = va.maxDepth + 1 := by omega
    rw [h.beyond _ hbeyond, levelAt_of_lt hbeyond]
    rfl
  | within depth hwithin ih =>
    rw [h.within depth hwithin, levelAt_of_le hwithin, ih (by omega)]
    rfl

/-- There is a solution. -/
theorem exists_solves (va : Validator) : ∃ run, va.Solves run := by
  refine ⟨fun depth => if depth ≤ va.maxDepth then va.levelAt depth else va.overrun depth, ?_, ?_⟩
  · intro depth hbeyond
    rw [if_neg (Nat.not_le_of_lt hbeyond)]
  · intro depth hwithin
    have hnext : (if depth + 1 ≤ va.maxDepth then va.levelAt (depth + 1)
        else va.overrun (depth + 1)) = va.levelAt (depth + 1) := by
      by_cases hbelow : depth + 1 ≤ va.maxDepth
      · rw [if_pos hbelow]
      · obtain rfl : depth = va.maxDepth := by omega
        rw [if_neg hbelow, levelAt_of_lt (Nat.lt_succ_self _)]
        rfl
    rw [if_pos hwithin, hnext, levelAt_of_le hwithin]
    rfl

end Validator

-- ════════════════════════════════════════════════════════════════════════
-- Asking for oneself
-- ════════════════════════════════════════════════════════════════════════

variable {scope : Scope} {name : String} {v : Value}

/-- Whatever it is told before, a program comes to ask for a name, in either mode, on a value at
    its own place, and ends in the fault if it is told of one. -/
inductive Program.ReEnters (scope : Scope) (name : String) (v : Value) : Program Descriptor → Prop
  | check {next : Except Failure Unit → Program Descriptor}
      (hfault : ∀ fault, (next (.error (.fault fault))).EndsIn fault) :
      ReEnters scope name v (.check none v (.named name) next)
  | conforms {next : Except Fault Bool → Program Descriptor}
      (hfault : ∀ fault, (next (.error fault)).EndsIn fault) :
      ReEnters scope name v (.conforms v (.named name) next)
  | note (n : Note) {next : Program Descriptor} (h : ReEnters scope name v next) :
      ReEnters scope name v (.note n next)
  | knows (other : String) {next : Bool → Program Descriptor}
      (h : ReEnters scope name v (next (scope.known other).isSome)) :
      ReEnters scope name v (.knows other next)
  | afterCheck (key : Option PropertyKey) (x : Value) (target : Target Descriptor)
      {next : Except Failure Unit → Program Descriptor}
      (h : ReEnters scope name v (next (scope.check key x target).outcome)) :
      ReEnters scope name v (.check key x target next)
  | afterConforms (x : Value) (target : Target Descriptor)
      {next : Except Fault Bool → Program Descriptor}
      (h : ReEnters scope name v (next (scope.conforms x target).outcome)) :
      ReEnters scope name v (.conforms x target next)

/-- A program that asks for a name on which both modes fault ends in that fault. -/
theorem Program.ReEnters.run_outcome {program : Program Descriptor} {fault : Fault}
    (h : program.ReEnters scope name v)
    (hcheck : (scope.check none v (.named name)).outcome = .error (.fault fault))
    (hconforms : (scope.conforms v (.named name)).outcome = .error fault) :
    (program.run scope).outcome = .error (.fault fault) := by
  induction h with
  | check hfault =>
    rw [run_check, hcheck]
    exact (hfault fault).run_outcome scope
  | conforms hfault =>
    rw [run_conforms, hconforms]
    exact (hfault fault).run_outcome scope
  | note _ _ ih => exact ih
  | knows _ _ ih => exact ih
  | afterCheck _ _ _ _ ih => exact ih
  | afterConforms _ _ _ ih => exact ih

namespace Validator

variable {va : Validator} {g : Guard Descriptor} {path : Path}

/-- A guard that is known by name asks for that name, on its own value and at its own place,
    wherever it is called there within the limit. -/
def AlwaysReEnters (va : Validator) (g : Guard Descriptor) (v : Value) (path : Path) : Prop :=
  ∃ name, va.known name = some (.guard g) ∧
    ∀ depth, depth ≤ va.maxDepth → (g.body v path).ReEnters (va.scopeAt path depth) name v

/-- A guard that always asks for itself is told at last that the limit is exceeded at its own
    place, at whatever depth it is called first. -/
theorem AlwaysReEnters.outcome (h : va.AlwaysReEnters g v path) (depth : Nat) :
    ((va.levelAt depth).assert v (.guard g) path).outcome =
      .error (.fault (.depthExceeded path va.maxDepth)) ∧
    ((va.levelAt depth).accepts v (.guard g) path).outcome =
      .error (.depthExceeded path va.maxDepth) := by
  obtain ⟨name, hname, hreenters⟩ := h
  induction depth using va.depth_induction with
  | beyond depth hbeyond =>
    rw [levelAt_of_lt hbeyond]
    exact ⟨rfl, rfl⟩
  | within depth hwithin ih =>
    have hresolve : (va.scopeAt path depth).resolve (.named name) = .ok (.guard g) := by
      simp only [Scope.resolve, scopeAt, hname]
    have hcheck : ((va.scopeAt path depth).check none v (.named name)).outcome =
        .error (.fault (.depthExceeded path va.maxDepth)) := by
      rw [Scope.check, hresolve]
      exact ih.1
    have hconforms : ((va.scopeAt path depth).conforms v (.named name)).outcome =
        .error (.depthExceeded path va.maxDepth) := by
      rw [Scope.conforms, hresolve]
      exact ih.2
    have hrun := (hreenters depth hwithin).run_outcome hcheck hconforms
    have hassert : ((va.levelAt depth).assert v (.guard g) path).outcome =
        .error (.fault (.depthExceeded path va.maxDepth)) := by
      rw [outcome_assert_of_le hwithin, Scope.assertHere, Eval.outcome_bind, Guard.call_eq]
      exact congrArg (· >>= _) hrun
    exact ⟨hassert, ((va.level_agrees _ v _ path).outcomes.faulted_iff _).mpr hassert⟩

-- ════════════════════════════════════════════════════════════════════════
-- Main result
-- ════════════════════════════════════════════════════════════════════════

/-- Whatever is known by name and whatever guards ask for, the two modes return: their equations
    have one solution, and no run leads to runs without end. Every place that is entered is that of
    a run to which the whole value leads. The depth of such a run is at most one more than the
    limit, its path is no longer than its depth, nested runs are at most two more than the limit,
    and counting the depth in 64 bits does not wrap. A guard that always asks for itself on its own
    value ends, in both modes, in a fault about the depth at the path where it started. -/
theorem reentry_is_bounded (va : Validator) :
    ((∃ run, va.Solves run) ∧ (∀ run, va.Solves run → run 0 = va.levelAt 0) ∧
      WellFounded fun r' r : Run => r.Makes va r') ∧
    (∀ v d path depth, (Run.whole v d).Enters va path depth →
      ∃ r, (Run.whole v d).Reaches va r ∧ r.path = path ∧ r.depth = depth) ∧
    (∀ v d r, (Run.whole v d).Reaches va r →
      r.depth ≤ va.maxDepth + 1 ∧ r.path.length ≤ r.depth) ∧
    (∀ v d rs, List.IsChain (Run.Makes va) (Run.whole v d :: rs) →
      (Run.whole v d :: rs).length ≤ va.maxDepth + 2) ∧
    (∀ r r' : Run, r.Makes va r' → r'.depth = r.depth + 1 ∧
      (va.maxDepth < 2 ^ 64 - 1 → (BitVec.ofNat 64 r.depth + 1#64).toNat = r'.depth)) ∧
    (∀ g v path, va.AlwaysReEnters g v path → ∀ depth,
      ((va.levelAt depth).assert v (.guard g) path).outcome =
        .error (.fault (.depthExceeded path va.maxDepth)) ∧
      ((va.levelAt depth).accepts v (.guard g) path).outcome =
        .error (.depthExceeded path va.maxDepth)) := by
  refine ⟨⟨va.exists_solves, ?_, Run.Makes.wellFounded va⟩, ?_, ?_, ?_, ?_, ?_⟩
  · intro run hsolves
    exact hsolves.eq_levelAt (Nat.zero_le _)
  · intro v d path depth henters
    exact Run.reaches_of_enters (Nat.zero_le _) henters
  · intro v d r hreaches
    have hbounds := hreaches.inBounds (Run.inBounds_whole v d)
    exact ⟨hbounds.depth, hbounds.path⟩
  · intro v d rs hchain
    have hlength := Run.length_le_of_isChain (Nat.zero_le _) hchain
    simp only [Run.whole, List.length_cons] at hlength ⊢
    omega
  · intro r r' hmakes
    refine ⟨hmakes.depth_eq, fun hlimit => ?_⟩
    have hle := hmakes.depth_le
    rw [hmakes.depth_eq, BitVec.toNat_add, BitVec.toNat_ofNat, BitVec.toNat_ofNat]
    omega
  · intro g v path hreenters depth
    exact hreenters.outcome depth

/-- A guard that asks for itself by name. -/
def echo : Guard Descriptor :=
  ⟨some "echo", none, fun v _ => .require none v (.named "echo") .accept⟩

/-- A limit of three levels, where `echo` is known by name. -/
def echoing : Validator := ⟨3, fun name => if name = "echo" then some (.guard echo) else none⟩

/-- On the one item of an array `echo` ends at that item, and so does the array. -/
theorem reentry_is_bounded_echo :
    echoing.AlwaysReEnters echo .null ⟨[.index 0]⟩ ∧
    ((echoing.levelAt 1).accepts .null (.guard echo) ⟨[.index 0]⟩).outcome =
      .error (.depthExceeded ⟨[.index 0]⟩ 3) ∧
    (echoing.assert (.array [.null]) (.arrayOf (.guard echo))).outcome =
      .error (.fault (.depthExceeded ⟨[.index 0]⟩ 3)) := by
  have hechoes : echoing.AlwaysReEnters echo .null ⟨[.index 0]⟩ :=
    ⟨"echo", rfl, fun depth _ => .check fun _ => rfl⟩
  have hitem := echoing.reentry_is_bounded.2.2.2.2.2 echo .null ⟨[.index 0]⟩ hechoes 1
  refine ⟨hechoes, hitem.2, ?_⟩
  -- the loop over the items ends in the error of its one round
  apply Eval.outcome_forM_eq_error_iff.mpr
  exact ⟨[], (.null, 0), [], rfl, List.forall_mem_nil _, hitem.1⟩

end Validator

end Conform
