import Conform.Proofs.Evaluation.Meaning
import Conform.Proofs.RenderOptions.Decoding
import Conform.View

/-!
# Typed views

A view checks a value against its descriptor and then extracts a result. The two are written apart,
and for the views that are built from those of the scalars they say the same: what conforms is
exactly what a result can be extracted from.

## Main definitions

- `View.Built` — the views that are built from the scalars by `View.list` and `View.option`

## Main results

- `View.Built.conforms_iff` — what conforms is what a result can be extracted from
- `View.outcome_resolve` — resolving is checking, then extracting
-/

namespace Conform

/-- All items of a list are read exactly if each of them can be. -/
theorem exists_mapM_eq_some_iff {α β : Type} {f : α → Option β} {xs : List α} :
    (∃ ys, xs.mapM f = some ys) ↔ ∀ x ∈ xs, ∃ y, f x = some y := by
  induction xs with
  | nil => simp
  | cons x xs ih =>
    rw [List.forall_mem_cons, ← ih, List.mapM_cons]
    cases hx : f x with
    | none => simp
    | some y =>
      cases hxs : xs.mapM f with
      | none => simp
      | some ys => simp

namespace View

/-- The views that are built from those of the scalars. -/
inductive Built : {α : Type} → View α → Prop
  | bool : Built bool
  | number : Built number
  | bigint : Built bigint
  | string : Built string
  | symbol : Built symbol
  | list {α : Type} {item : View α} (h : Built item) : Built (list item)
  | option {α : Type} {item : View α} (h : Built item) : Built (option item)

-- ════════════════════════════════════════════════════════════════════════
-- Views built from scalars
-- ════════════════════════════════════════════════════════════════════════

namespace Built

variable {α : Type} {view : View α}

theorem guardFree (h : view.Built) : view.descriptor.GuardFree := by
  induction h with
  | bool | number | bigint | string | symbol => exact .primitive _
  | list _ ih => exact .arrayOf ih
  | option _ ih =>
    refine .union fun member hmember => ?_
    simp only [List.mem_cons, List.not_mem_nil, or_false] at hmember
    rcases hmember with rfl | rfl
    · exact .primitive .nullish
    · exact ih

/-- What conforms to the descriptor of a view is what a result can be extracted from. -/
theorem conforms_iff {verdict : Guard Descriptor → Value → Bool} (h : view.Built) (v : Value) :
    Conforms verdict v view.descriptor ↔ ∃ a, view.extract v = some a := by
  induction h generalizing v with
  | bool =>
    simp only [View.bool, conforms_primitive, Primitive.test_boolean_iff,
      Value.asBool?_eq_some_iff]
  | number =>
    simp only [View.number, conforms_primitive, Primitive.test_number_iff,
      Value.asNumber?_eq_some_iff]
  | bigint =>
    simp only [View.bigint, conforms_primitive, Primitive.test_bigint_iff,
      Value.asBigint?_eq_some_iff]
  | string =>
    simp only [View.string, conforms_primitive, Primitive.test_string_iff,
      Value.asString?_eq_some_iff]
  | symbol =>
    simp only [View.symbol, conforms_primitive, Primitive.test_symbol_iff,
      Value.asSymbol?_eq_some_iff]
  | list _ ih =>
    simp only [View.list, conforms_arrayOf, Option.bind_eq_some_iff, Value.asArray?_eq_some_iff, ih]
    constructor
    · rintro ⟨items, rfl, hitems⟩
      obtain ⟨results, hresults⟩ := exists_mapM_eq_some_iff.mpr hitems
      exact ⟨results, items, rfl, hresults⟩
    · rintro ⟨results, items, rfl, hresults⟩
      exact ⟨items, rfl, exists_mapM_eq_some_iff.mp ⟨results, hresults⟩⟩
  | @option _ item _ ih =>
    have hpresent : (∃ a, (item.extract v).map some = some a) ↔ ∃ a, item.extract v = some a := by
      cases item.extract v <;> simp
    simp only [View.option, conforms_union, List.mem_cons, List.not_mem_nil, or_false,
      exists_eq_or_imp, exists_eq_left, conforms_primitive, Primitive.test, ih]
    cases v.isNullish with
    | true => simp
    | false => simp only [Bool.false_eq_true, false_or, if_false, hpresent]

end Built

-- ════════════════════════════════════════════════════════════════════════
-- Resolving
-- ════════════════════════════════════════════════════════════════════════

/-- A value is checked first, then the result is extracted. -/
theorem outcome_resolve {α ε : Type} (view : View α) (va : Validator) (errors : ErrorFactory ε)
    (v : Value) :
    (view.resolve va errors v).outcome =
      match (va.assert v view.descriptor).outcome with
      | .error failure => .error (errors.convert failure)
      | .ok () =>
        match view.extract v with
        | some a => .ok a
        | none => .error (errors.convert (.wrongType .root view.descriptor v)) := by
  rw [resolve, Eval.outcome_bind]
  show (va.assert v view.descriptor).outcome.mapError errors.convert >>= _ = _
  match (va.assert v view.descriptor).outcome with
  | .error failure => rfl
  | .ok () =>
    cases view.extract v with
    | some a => rfl
    | none => rfl

/-- A result is what is extracted from a value that is accepted. -/
theorem outcome_resolve_eq_ok_iff {α ε : Type} {view : View α} {va : Validator}
    {errors : ErrorFactory ε} {v : Value} {a : α} :
    (view.resolve va errors v).outcome = .ok a ↔
      (va.assert v view.descriptor).outcome = .ok () ∧ view.extract v = some a := by
  rw [outcome_resolve]
  match (va.assert v view.descriptor).outcome with
  | .error failure => simp
  | .ok () =>
    cases view.extract v with
    | some b => simp
    | none => simp

end View

end Conform
