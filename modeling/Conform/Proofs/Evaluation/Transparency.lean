import Conform.Proofs.Evaluation.Limit

/-!
# Descriptors that stand for others

One descriptor stands for another if it is written the same and, until it is cut off, ends the same
at every depth. It may then take the place of the other one in any context: as an item, as a field
or as a member, at any height. So may a guard that comes back to the evaluation with a descriptor
and adds nothing of its own; all that it costs is one level.

## Main definitions

- `Guard.reentering` — the guard that checks a descriptor, and nothing else
- `Descriptor.Context` — a descriptor with a hole
- `Validator.StandsFor` — a descriptor can be put in the place of another

## Main results

- `Validator.persists_deeper` — both modes one level further down
- `Validator.StandsFor.fill` — what stands for a descriptor does so in every context
- `Validator.reentering_is_transparent` — a guard in the place of what it checks
-/

namespace Conform

/-- The guard that checks a descriptor on its own value, hands on what it is told and accepts
    otherwise. It is written as the descriptor is. -/
def Guard.reentering (name : Option String) (d : Descriptor) : Guard Descriptor :=
  ⟨name, some d.render, fun v _ => .require none v (.inline d) .accept⟩

namespace Descriptor

/-- A descriptor with one hole in it: in an item, among the fields of a shape or among the members
    of a combinator. -/
inductive Context where
  | hole
  | arrayOf (item : Context)
  | field (before : List (PropertyKey × Descriptor)) (key : PropertyKey) (inner : Context)
      (after : List (PropertyKey × Descriptor))
  | member (c : Combinator) (before : List Descriptor) (inner : Context)
      (after : List Descriptor)

/-- The context with a descriptor in its hole. -/
def Context.fill : Context → Descriptor → Descriptor
  | hole, d => d
  | arrayOf item, d => .arrayOf (item.fill d)
  | field before key inner after, d => .shape ⟨before ++ (key, inner.fill d) :: after⟩
  | member c before inner after, d => c.of (before ++ inner.fill d :: after)

end Descriptor

namespace Eval

variable {d e : Descriptor}

theorem persists_rejectType (hrender : d.render = e.render) (path : Path) (v : Value) :
    (rejectType (α := Unit) path d v).Persists .fault (rejectType path e v) := by
  simp only [rejectType, Failure.wrongType, hrender]
  exact .refl _

theorem persists_rejectAbsent (hrender : d.render = e.render) (path : Path) :
    (rejectAbsent (α := Unit) path d).Persists .fault (rejectAbsent path e) := by
  simp only [rejectAbsent, Failure.absent, hrender]
  exact .refl _

theorem persists_expectType (hrender : d.render = e.render) (verdict : Bool) (path : Path)
    (v : Value) : (expectType verdict path d v).Persists .fault (expectType verdict path e v) := by
  cases verdict with
  | true => exact .refl _
  | false => exact persists_rejectType hrender path v

end Eval

-- ════════════════════════════════════════════════════════════════════════
-- One level further down
-- ════════════════════════════════════════════════════════════════════════

theorem Program.run_withDepth (scope : Scope) (depth : Nat) (program : Program Descriptor) :
    program.run { scope with depth := depth } = program.run scope := by
  induction program with
  | answer outcome => rfl
  | note n next ih => exact congrArg (Eval.emit (.noted n) >>= fun _ => ·) ih
  | knows name next ih => exact ih (scope.known name).isSome
  | check key v target next ih =>
    have hcheck : ({ scope with depth := depth } : Scope).check key v target =
      scope.check key v target := rfl
    rw [run_check, run_check, hcheck, ih]
  | conforms v target next ih =>
    have hconforms : ({ scope with depth := depth } : Scope).conforms v target =
      scope.conforms v target := rfl
    rw [run_conforms, run_conforms, hconforms, ih]

/-- The depth of a step is recorded; it does not show in the outcome. -/
theorem Scope.outcome_assertHere_withDepth (scope : Scope) (depth : Nat) (v : Value)
    (d : Descriptor) :
    ({ scope with depth := depth }.assertHere v d).outcome = (scope.assertHere v d).outcome := by
  cases d with
  | guard g =>
    have hcall : (g.call { scope with depth := depth } v).outcome = (g.call scope v).outcome := by
      rw [Guard.call_eq, Guard.call_eq, Program.run_withDepth]
    simp only [assertHere, Eval.outcome_bind, hcall]
  | _ => rfl

namespace Validator

variable {va : Validator} {own : Fault → Prop} {d e : Descriptor}

/-- Both modes persist one level further up, where the same place is reached with more levels to
    go. -/
theorem persists_deeper
    (hknown : ∀ name d, va.known name = some d → d.AllGuards (Guard.HandsOn own)) (depth : Nat) :
    (va.levelAt (depth + 1)).PersistsIn own (va.levelAt depth) := by
  induction depth using va.depth_induction with
  | beyond depth hdepth =>
    intro v d path _
    rw [levelAt_of_lt hdepth, levelAt_of_lt (Nat.lt_succ_of_lt hdepth)]
    exact ⟨.refl _, .refl _⟩
  | within depth hdepth ih =>
    intro v d path hguards
    have hassert : ((va.levelAt (depth + 1)).assert v d path).Persists .fault
        ((va.levelAt depth).assert v d path) := by
      rcases Nat.lt_or_ge va.maxDepth (depth + 1) with hbeyond | hwithin
      · rw [levelAt_of_lt hbeyond]
        exact .inl ⟨path, va.maxDepth, rfl⟩
      · have hstep : ((va.scopeAt path (depth + 1)).assertHere v d).Persists .fault
            ({ va.scopeAt path (depth + 1) with below := va.levelAt (depth + 1) }.assertHere v d) :=
          Scope.persists_here ih hknown v hguards
        have hdeeper := Scope.outcome_assertHere_withDepth (va.scopeAt path depth) (depth + 1) v d
        rw [Eval.Persists, Eval.CutOff, outcome_assert_of_le hwithin, outcome_assert_of_le hdepth,
          ← hdeeper]
        exact hstep
    exact ⟨hassert, (va.level_agrees _ v d path).persists (va.level_agrees _ v d path) hassert⟩

-- ════════════════════════════════════════════════════════════════════════
-- Standing for another descriptor
-- ════════════════════════════════════════════════════════════════════════

/-- A descriptor is written as another one and, until it is cut off, ends as that one does, on
    every value and at every place. -/
structure StandsFor (va : Validator) (d e : Descriptor) : Prop where
  render_eq : d.render = e.render
  persists (depth : Nat) (v : Value) (path : Path) :
    ((va.levelAt depth).assert v d path).Persists .fault ((va.levelAt depth).assert v e path)

/-- It is enough to look at the steps within the limit. -/
theorem standsFor_of_steps (hrender : d.render = e.render)
    (hstep : ∀ depth v path, depth ≤ va.maxDepth →
      ((va.scopeAt path depth).assertHere v d).Persists .fault
        ((va.scopeAt path depth).assertHere v e)) : va.StandsFor d e where
  render_eq := hrender
  persists depth v path := by
    rcases Nat.lt_or_ge va.maxDepth depth with hbeyond | hwithin
    · rw [levelAt_of_lt hbeyond]
      exact .refl _
    · rw [Eval.Persists, Eval.CutOff, outcome_assert_of_le hwithin, outcome_assert_of_le hwithin]
      exact hstep depth v path hwithin

namespace StandsFor

theorem refl (va : Validator) (d : Descriptor) : va.StandsFor d d where
  render_eq := rfl
  persists _ _ _ := .refl _

theorem persists_accepts (h : va.StandsFor d e) (depth : Nat) (v : Value) (path : Path) :
    ((va.levelAt depth).accepts v d path).Persists id ((va.levelAt depth).accepts v e path) :=
  (va.level_agrees _ v d path).persists (va.level_agrees _ v e path) (h.persists depth v path)

theorem arrayOf (h : va.StandsFor d e) : va.StandsFor (.arrayOf d) (.arrayOf e) := by
  have hrender : (Descriptor.arrayOf d).render = (Descriptor.arrayOf e).render := by
    rw [Descriptor.render, Descriptor.render, h.render_eq]
  refine standsFor_of_steps hrender fun depth v path _ => ?_
  cases v with
  | array items =>
    exact Eval.Persists.compositional.forM fun entry _ => h.persists (depth + 1) entry.1 _
  | _ => exact Eval.persists_rejectType hrender path _

theorem shape {fields fields' : Entries Descriptor}
    (h : List.Forall₂ (fun entry entry' => entry.1 = entry'.1 ∧ va.StandsFor entry.2 entry'.2)
      fields.toList fields'.toList) : va.StandsFor (.shape fields) (.shape fields') := by
  refine standsFor_of_steps rfl fun depth v path _ => ?_
  simp only [Scope.assertHere]
  cases v.holdsProperties with
  | false => exact Eval.persists_rejectType rfl path v
  | true =>
    refine Eval.Persists.compositional.forM_forall₂ (h.imp ?_)
    rintro ⟨key, field⟩ ⟨_, field'⟩ ⟨rfl, hfield⟩
    cases v.get? key with
    | none => exact Eval.persists_rejectAbsent hfield.render_eq (path.child key)
    | some property => exact hfield.persists (depth + 1) property (path.child key)

theorem of {members members' : List Descriptor} (c : Combinator)
    (h : List.Forall₂ va.StandsFor members members') :
    va.StandsFor (c.of members) (c.of members') := by
  have hrenders : Descriptor.renderAll members = Descriptor.renderAll members' := by
    induction h with
    | nil => rfl
    | cons hfirst _ ih => rw [Descriptor.renderAll, Descriptor.renderAll, hfirst.render_eq, ih]
  have hrender : (c.of members).render = (c.of members').render := by
    cases c <;> simp only [Combinator.of, Descriptor.render, hrenders]
  refine standsFor_of_steps hrender fun depth v path _ => ?_
  have hmember {member member' : Descriptor} (hmember : va.StandsFor member member') :=
    (hmember.persists_accepts (depth + 1) v path).mapError
  cases c with
  | union =>
    have hany := Eval.Persists.compositional.anyM_forall₂ (h.imp fun _ _ => hmember)
    exact hany.bind fun verdict => Eval.persists_expectType hrender verdict path v
  | intersection =>
    have hall := Eval.Persists.compositional.allM_forall₂ (h.imp fun _ _ => hmember)
    exact hall.bind fun verdict => Eval.persists_expectType hrender verdict path v

/-- What stands for a descriptor does so in every context. -/
theorem fill (h : va.StandsFor d e) (c : Descriptor.Context) :
    va.StandsFor (c.fill d) (c.fill e) := by
  induction c with
  | hole => exact h
  | arrayOf item ih => exact ih.arrayOf
  | field before key inner after ih =>
    have hself (fields : List (PropertyKey × Descriptor)) : List.Forall₂
        (fun entry entry' => entry.1 = entry'.1 ∧ va.StandsFor entry.2 entry'.2) fields fields :=
      List.forall₂_same.mpr fun entry _ => ⟨rfl, .refl va entry.2⟩
    exact .shape (List.rel_append (hself before) (.cons ⟨rfl, ih⟩ (hself after)))
  | member c before inner after ih =>
    have hself (members : List Descriptor) : List.Forall₂ va.StandsFor members members :=
      List.forall₂_same.mpr fun member _ => .refl va member
    exact .of c (List.rel_append (hself before) (.cons ih (hself after)))

end StandsFor

/-- The guard that checks a descriptor stands for it, if the guards of the descriptor hand on
    faults. The descriptor is then evaluated one level further down, and the only thing that can
    become of that is to be cut off. -/
theorem standsFor_reentering (hguards : va.HandsOn own d) (name : Option String) :
    va.StandsFor (.guard (.reentering name d)) d := by
  have hrender : (Descriptor.guard (.reentering name d)).render = d.render := rfl
  refine standsFor_of_steps hrender fun depth v path hdepth => ?_
  have hcall : ((va.scopeAt path depth).assertHere v (.guard (.reentering name d))).outcome =
      ((va.levelAt (depth + 1)).assert v d path).outcome := by
    have hcheck : (va.scopeAt path depth).check none v (.inline d) =
        (va.levelAt (depth + 1)).assert v d path := rfl
    rw [Scope.assertHere, Eval.outcome_bind, Guard.call_eq]
    simp only [Guard.reentering, Program.require, Program.run_check, hcheck]
    cases ((va.levelAt (depth + 1)).assert v d path).outcome with
    | ok => rfl
    | error f => rfl
  have hdeeper := (persists_deeper hguards.known depth v d path hguards.guards).1
  rw [Eval.Persists, Eval.CutOff, outcome_assert_of_le hdepth] at hdeeper
  rw [Eval.Persists, Eval.CutOff, hcall]
  exact hdeeper

/-- In every context a guard that checks a descriptor, and does nothing else, can take its place:
    the whole is written the same, and in both modes it ends the same, with the same failure, its
    place and its texts, unless it is cut off. It is cut off if the other one is. -/
theorem reentering_is_transparent (hguards : va.HandsOn own d) (name : Option String)
    (c : Descriptor.Context) (v : Value) :
    (c.fill (.guard (.reentering name d))).render = (c.fill d).render ∧
    (¬ (va.accepts v (c.fill (.guard (.reentering name d)))).CutOff id →
      (va.accepts v (c.fill (.guard (.reentering name d)))).outcome =
        (va.accepts v (c.fill d)).outcome) ∧
    (¬ (va.assert v (c.fill (.guard (.reentering name d)))).CutOff .fault →
      (va.assert v (c.fill (.guard (.reentering name d)))).outcome =
        (va.assert v (c.fill d)).outcome) ∧
    ((va.assert v (c.fill d)).CutOff .fault →
      (va.assert v (c.fill (.guard (.reentering name d)))).CutOff .fault) := by
  have hstands : va.StandsFor (c.fill (.guard (.reentering name d))) (c.fill d) :=
    (standsFor_reentering hguards name).fill c
  have hassert := hstands.persists 0 v .root
  have haccepts := hstands.persists_accepts 0 v .root
  refine ⟨hstands.render_eq, ?_, ?_, hassert.cutOff⟩
  · intro hcut
    exact (haccepts.outcome_eq hcut).symm
  · intro hcut
    exact (hassert.outcome_eq hcut).symm

/-- Lists of texts. -/
def texts : Descriptor := .arrayOf (.guard (.ofTest "text" fun v => v.kind == .string))

/-- Under a key, an array of things that are nothing at all or fill the hole. -/
def listed : Descriptor.Context :=
  .field [] (.string "tags") (.arrayOf (.member .union [.primitive .null] .hole [])) []

/-- The second list holds a truth value. -/
def listedTexts : Value :=
  .object ⟨[(.string "tags", .array [.array [.string "a"], .array [.bool true]])]⟩

/-- With five levels the guard reports what the lists themselves do, whose last level is the fourth;
    with four the guard is cut off. -/
theorem reentering_is_transparent_listed :
    HandsOn ⟨5, fun _ => none⟩ (fun _ => False) texts ∧
    ¬ (assert ⟨5, fun _ => none⟩ listedTexts
      (listed.fill (.guard (.reentering none texts)))).CutOff .fault ∧
    (assert ⟨5, fun _ => none⟩ listedTexts (listed.fill texts)).outcome =
      .error (.invalidType ⟨⟨[.string "tags", .index 1]⟩, "null | array<guard(text)>",
        some "array<boolean>"⟩) ∧
    (accepts ⟨5, fun _ => none⟩ listedTexts (listed.fill texts)).outcome = .ok false ∧
    (assert ⟨4, fun _ => none⟩ listedTexts (listed.fill texts)).outcome =
      .error (.invalidType ⟨⟨[.string "tags", .index 1]⟩, "null | array<guard(text)>",
        some "array<boolean>"⟩) ∧
    (assert ⟨4, fun _ => none⟩ listedTexts
      (listed.fill (.guard (.reentering none texts)))).CutOff .fault := by
  have hguards : HandsOn ⟨5, fun _ => none⟩ (fun _ => False) texts := by
    refine ⟨?_, fun _ _ h => nomatch h⟩
    refine Descriptor.allGuards_arrayOf.mpr (Descriptor.allGuards_guard.mpr fun v path => ?_)
    exact .answer fun _ h => nomatch h
  have hreport : (assert ⟨5, fun _ => none⟩ listedTexts
      (listed.fill (.guard (.reentering none texts)))).outcome =
      .error (.invalidType ⟨⟨[.string "tags", .index 1]⟩, "null | array<guard(text)>",
        some "array<boolean>"⟩) := rfl
  have hnot : ¬ (assert ⟨5, fun _ => none⟩ listedTexts
      (listed.fill (.guard (.reentering none texts)))).CutOff .fault := by
    rintro ⟨path, limit, hcut⟩
    cases hreport.symm.trans hcut
  have hanswer : (accepts ⟨5, fun _ => none⟩ listedTexts
      (listed.fill (.guard (.reentering none texts)))).outcome = .ok false := rfl
  have hnotAsked : ¬ (accepts ⟨5, fun _ => none⟩ listedTexts
      (listed.fill (.guard (.reentering none texts)))).CutOff id := by
    rintro ⟨path, limit, hcut⟩
    cases hanswer.symm.trans hcut
  obtain ⟨-, haccepts, hassert, -⟩ :=
    reentering_is_transparent hguards none listed listedTexts
  refine ⟨hguards, hnot, (hassert hnot).symm.trans hreport,
    (haccepts hnotAsked).symm.trans hanswer, rfl, ?_⟩
  exact ⟨⟨[.string "tags", .index 0, .index 0]⟩, 4, rfl⟩

end Validator

end Conform
