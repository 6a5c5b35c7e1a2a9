import Conform.Proofs.Evaluation.Limit
import Conform.Proofs.RenderOptions.Language

/-!
# Narrowing values to typed results

A view whose extraction disagrees with its own descriptor would report the whole value. None of the
views does: for those that are built from the scalars, and for that of render options, whatever the
check accepts has a result, under every limit. So the check alone decides about errors, and where
the limit leaves room for the descriptor of a view, its results are exactly what is extracted.

## Main definitions

- `View.NeverFallsBack` — the check alone decides whether there is an error, and which one

## Main results

- `View.Built.neverFallsBack`, `RenderOptions.view_neverFallsBack` — these views
- `View.narrowing_exact` — resolving is as strong as checking and as extracting
-/

namespace Conform

variable {α ε : Type} {va : Validator} {errors : ErrorFactory ε} {v : Value}

namespace View

variable {view : View α}

/-- Whatever the check accepts has a result, so nothing is reported apart from what the check
    reports, and an error is the error of the check in the caller's own terms. -/
structure NeverFallsBack (view : View α) (va : Validator) (errors : ErrorFactory ε) (v : Value) :
    Prop where
  extracts : (va.assert v view.descriptor).outcome = .ok () → ∃ a, view.extract v = some a
  events_eq : (view.resolve va errors v).events = (va.assert v view.descriptor).events
  error_iff : ∀ e, (view.resolve va errors v).outcome = .error e ↔
    ∃ failure, (va.assert v view.descriptor).outcome = .error failure ∧ errors.convert failure = e

theorem neverFallsBack_of_extracts
    (h : (va.assert v view.descriptor).outcome = .ok () → ∃ a, view.extract v = some a) :
    view.NeverFallsBack va errors v := by
  have hevents : (view.resolve va errors v).events = (va.assert v view.descriptor).events := by
    rw [resolve, Validator.assertWith, Eval.mapError]
    cases houtcome : (va.assert v view.descriptor).outcome with
    | error failure => rfl
    | ok _ =>
      obtain ⟨a, ha⟩ := h houtcome
      simp [Except.mapError, ha]
  refine ⟨h, hevents, fun e => ?_⟩
  rw [outcome_resolve]
  cases houtcome : (va.assert v view.descriptor).outcome with
  | error failure => simp
  | ok _ =>
    obtain ⟨a, ha⟩ := h houtcome
    simp [ha]

namespace Built

/-- Whatever the limit is, a view that is built from scalars has a result for what is accepted. -/
theorem neverFallsBack (h : view.Built) : view.NeverFallsBack va errors v := by
  apply neverFallsBack_of_extracts
  intro hok
  have hconforms := Validator.conforms_of_assert (fun _ _ => true) h.guardFree hok
  exact (h.conforms_iff v).mp hconforms

/-- With room for the descriptor of such a view, what is accepted is what has a result. -/
theorem assert_eq_ok_iff (h : view.Built) (hheight : view.descriptor.height ≤ va.maxDepth) :
    (va.assert v view.descriptor).outcome = .ok () ↔ ∃ a, view.extract v = some a := by
  have hguards : view.descriptor.AllGuards fun g => g.Answers va fun _ => true :=
    h.guardFree.allGuards
  exact (Validator.assert_eq_ok_iff_conforms v _ hguards hheight).trans (h.conforms_iff v)

end Built

end View

/-- Render options can be read from every value that their descriptor accepts. -/
theorem RenderOptions.view_neverFallsBack : view.NeverFallsBack va errors v := by
  apply View.neverFallsBack_of_extracts
  intro hok
  obtain ⟨o, hspells, -⟩ := exists_spells_of_assert hok
  exact ⟨o, ofValue?_eq_some_iff_spells.mpr hspells⟩

-- ════════════════════════════════════════════════════════════════════════
-- Main result
-- ════════════════════════════════════════════════════════════════════════

namespace View

/-- Narrowing is sound and complete. A view that is built from scalars never falls back on a report
    about the whole value, and with room for its descriptor it resolves a value to exactly the
    result that is extracted from it. Nor does the view of render options ever fall back. -/
theorem narrowing_exact (va : Validator) (errors : ErrorFactory ε) (v : Value) :
    (∀ {α : Type} (view : View α), view.Built →
      view.NeverFallsBack va errors v ∧
      (view.descriptor.height ≤ va.maxDepth → ∀ a,
        (view.resolve va errors v).outcome = .ok a ↔ view.extract v = some a)) ∧
    RenderOptions.view.NeverFallsBack va errors v := by
  refine ⟨fun view hbuilt => ⟨hbuilt.neverFallsBack, fun hheight a => ?_⟩,
    RenderOptions.view_neverFallsBack⟩
  rw [outcome_resolve_eq_ok_iff, hbuilt.assert_eq_ok_iff hheight]
  constructor
  · exact fun ⟨_, ha⟩ => ha
  · exact fun ha => ⟨⟨a, ha⟩, ha⟩

/-- Measurements, some of which are missing. -/
def measurements : View (List (Option Number)) := list (option number)

/-- Two levels leave room for measurements, one does not: then the first item is cut off, and it is
    the check that says so. -/
theorem narrowing_exact_measurements :
    measurements.Built ∧ measurements.descriptor.height ≤ 2 ∧
    (measurements.resolve ⟨2, fun _ => none⟩ ErrorFactory.standard
      (.array [.number (Number.ofNat 3), .null, .undefined])).outcome =
        .ok [some (Number.ofNat 3), none, none] ∧
    (measurements.resolve ⟨1, fun _ => none⟩ ErrorFactory.standard
      (.array [.null])).outcome =
        .error (.fault (.depthExceeded ⟨[.index 0]⟩ 1)) := by
  have hbuilt : measurements.Built := .list (.option .number)
  have hheight : measurements.descriptor.height ≤ 2 := by decide
  refine ⟨hbuilt, hheight, ?_, ?_⟩
  · exact (((narrowing_exact _ _ _).1 measurements hbuilt).2 hheight _).mpr rfl
  · exact (((narrowing_exact _ _ _).1 measurements hbuilt).1.error_iff _).mpr ⟨_, rfl, rfl⟩

end View

end Conform
