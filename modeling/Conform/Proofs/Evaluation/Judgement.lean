import Conform.Proofs.Evaluation.Meaning

/-!
# Assertions with one report

Some descriptors have one report about all values that do not conform: the base kinds, the unions,
and the guards that read a value.

## Main definitions

- `Judges` — an assertion decides a proposition, with one report where it does not hold

## Main results

- `Judges.primitive`, `Judges.union`, `Judges.reader` — these kinds of descriptor
-/

namespace Conform

/-- An assertion succeeds exactly if a proposition holds, and fails with one report otherwise. -/
def Judges (outcome : Except Failure Unit) (p : Prop) (r : Report) : Prop :=
  p ∧ outcome = .ok () ∨ ¬ p ∧ outcome = .error (.invalidType r)

namespace Judges

variable {va : Validator} {depth : Nat} {v : Value} {path : Path} {p : Prop}

theorem ok {outcome : Except Failure Unit} {r : Report} (h : Judges outcome p r) (hp : p) :
    outcome = .ok () := by
  rcases h with ⟨-, hok⟩ | ⟨hno, -⟩
  · exact hok
  · exact absurd hp hno

theorem error {outcome : Except Failure Unit} {r : Report} (h : Judges outcome p r) (hp : ¬ p) :
    outcome = .error (.invalidType r) := by
  rcases h with ⟨hyes, -⟩ | ⟨-, herror⟩
  · exact absurd hyes hp
  · exact herror

theorem of_ok {outcome : Except Failure Unit} {r : Report} (h : Judges outcome p r)
    (hok : outcome = .ok ()) : p := by
  rcases h with ⟨hp, -⟩ | ⟨-, herror⟩
  · exact hp
  · exact nomatch hok.symm.trans herror

theorem expectType {verdict : Bool} {d : Descriptor} (h : verdict = true ↔ p) :
    Judges (Eval.expectType verdict path d v).outcome p ⟨path, d.render, some v.received⟩ := by
  cases verdict with
  | true => exact .inl ⟨h.mp rfl, rfl⟩
  | false => exact .inr ⟨fun hp => (nomatch h.mpr hp), rfl⟩

theorem primitive (hdepth : depth ≤ va.maxDepth) {kind : Primitive} (h : kind.test v = true ↔ p) :
    Judges ((va.levelAt depth).assert v (.primitive kind) path).outcome p
      ⟨path, kind.name, some v.received⟩ := by
  rw [Validator.outcome_assert_of_le hdepth]
  exact expectType h

/-- A union is rejected as a whole, whatever its members would report. -/
theorem union (verdict : Guard Descriptor → Value → Bool) {members : List Descriptor}
    (hguards : (Descriptor.union members).AllGuards fun g => g.Answers va (verdict g))
    (hheight : (Descriptor.union members).height + depth ≤ va.maxDepth)
    (h : Conforms verdict v (.union members) ↔ p) :
    Judges ((va.levelAt depth).assert v (.union members) path).outcome p
      ⟨path, (Descriptor.union members).render, some v.received⟩ := by
  have hdepth : depth ≤ va.maxDepth := by omega
  obtain ⟨answer, hanswer, hconforms⟩ :=
    Validator.decides_conforms depth v (.union members) path hguards hheight
  rw [Validator.outcome_accepts_of_le hdepth] at hanswer
  rw [Validator.outcome_assert_of_le hdepth]
  have hverdict : (members.anyM fun member =>
      ((va.levelAt (depth + 1)).accepts v member path).mapError Failure.fault).outcome =
        .ok answer := by
    rw [Eval.anyM_mapError]
    exact congrArg (Except.mapError Failure.fault) hanswer
  simp only [Scope.assertHere, Validator.scopeAt, Eval.outcome_bind, hverdict]
  exact expectType (hconforms.trans h)

/-- A guard that reads a value, and has one report about all that it cannot read. -/
theorem reader {α : Type} (read : Value → Option α) (hdepth : depth ≤ va.maxDepth)
    {g : Guard Descriptor} {text : String}
    (hbody : ∀ v path, g.body v path = match read v with
      | some _ => .accept
      | none => .fail (.unexpected path text v))
    (h : (∃ a, read v = some a) ↔ p) :
    Judges ((va.levelAt depth).assert v (.guard g) path).outcome p
      ⟨path, text, some v.received⟩ := by
  rw [Validator.outcome_assert_of_le hdepth]
  simp only [Scope.assertHere, Eval.outcome_bind, Guard.call_eq, hbody, Validator.scopeAt]
  cases hread : read v with
  | some a => exact .inl ⟨h.mp ⟨a, hread⟩, rfl⟩
  | none =>
    refine .inr ⟨fun hp => ?_, rfl⟩
    obtain ⟨a, ha⟩ := h.mpr hp
    cases hread.symm.trans ha

end Judges

end Conform
