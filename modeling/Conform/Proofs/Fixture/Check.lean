import Conform.Fixture.Check
import Conform.Proofs.Narrowing

/-!
# Checking fixtures

A fixture is run in both modes, and for render options the two sides run different code: assert mode
refuses whatever is no object before it looks at the descriptor, reads the options afterwards, and
has errors of its own; predicate mode is asked about the descriptor alone. They agree all the same
on every document, so a fixture can only fail because it cannot be built or because it expects
something else.

## Main definitions

- `Fixture.Observation.AgreesWith` — both modes find no verdict, or the same
- `Fixture.Expectation.Misses` — how an outcome can differ from what is expected

## Main results

- `Fixture.Expectation.compare_eq_error_iff` — what a comparison complains about
- `Fixture.agreesWith_of_observe` — the two modes agree on every fixture
- `Fixture.check_blames_fixture` — a fixture fails only because of what it says
-/

namespace Conform

/-- No document has callables in it. -/
theorem Value.kind_ofJson_ne_function (document : Json) :
    (Value.ofJson document).kind ≠ .function := by
  cases document <;> simp [ofJson, kind]

theorem RenderOptions.kind_mergeOver (document : Value) (defaults : RenderOptions) :
    (mergeOver document defaults).kind = document.kind := by
  cases document <;> rfl

/-- What is neither an object nor a callable is no document of render options for predicate mode
    either, however small the limit is. -/
theorem RenderOptions.accepts_of_not_isObject (va : Validator) {document : Value}
    (hobject : document.isObject = false) (hfunction : document.kind ≠ .function) :
    (va.accepts document descriptor).outcome = .ok false := by
  have hsame := (va.agree_whole document descriptor).outcomes
  apply hsame.rejected_iff.mpr
  cases document with
  | object _ => cases hobject
  | function _ _ => exact absurd rfl hfunction
  | array items => exact ⟨_, .inr (RenderOption.assert_descriptor_of_array va items)⟩
  | _ => exact ⟨_, .inl (RenderOption.assert_descriptor_of_not_holds va rfl)⟩

namespace Fixture

-- ════════════════════════════════════════════════════════════════════════
-- The two modes
-- ════════════════════════════════════════════════════════════════════════

/-- Both modes find no verdict, or the same. -/
structure Observation.AgreesWith (observed : Observation) (verdict : Option Bool) : Prop where
  faulted_iff : verdict = none ↔ ∃ message, observed = .fault message
  accepted_iff : verdict = some true ↔ observed = .ok

namespace Observation

theorem AgreesWith.ok : ok.AgreesWith (some true) := by
  constructor <;> simp

theorem AgreesWith.invalid (path message : String) :
    (invalid path message).AgreesWith (some false) := by
  constructor <;> simp

theorem AgreesWith.missing (path message : String) :
    (missing path message).AgreesWith (some false) := by
  constructor <;> simp

theorem AgreesWith.fault (message : String) : (fault message).AgreesWith none := by
  constructor <;> simp

/-- Where the modes agree, the comparison of the modes has nothing to complain about. -/
theorem AgreesWith.agreement_eq_ok {observed : Observation} {verdict : Option Bool}
    (h : observed.AgreesWith verdict) : agreement observed verdict = .ok () := by
  obtain ⟨hfaulted, haccepted⟩ := h
  match verdict with
  | none =>
    obtain ⟨message, rfl⟩ := hfaulted.mp rfl
    rfl
  | some true =>
    obtain rfl := haccepted.mp rfl
    rfl
  | some false =>
    cases observed with
    | ok => cases haccepted.mpr rfl
    | fault message => cases hfaulted.mpr ⟨message, rfl⟩
    | invalid path message => rfl
    | missing path message => rfl

/-- The check of a value agrees with the question whether it conforms. -/
theorem agreesWith_ofCheck {asserted : Except Failure Unit} {asked : Except Fault Bool}
    (h : SameVerdict asserted asked) : (ofCheck asserted).AgreesWith asked.toOption := by
  match asserted with
  | .ok () =>
    rw [h.accepted_iff.mpr rfl]
    exact .ok
  | .error (.invalidType r) =>
    rw [h.rejected_iff.mpr ⟨r, .inl rfl⟩]
    exact .invalid _ _
  | .error (.missingProperty r) =>
    rw [h.rejected_iff.mpr ⟨r, .inr rfl⟩]
    exact .missing _ _
  | .error (.fault f) =>
    rw [(h.faulted_iff f).mpr rfl]
    exact .fault _

/-- The check of a full set of render options agrees with the question as well, although it gates
    documents, reads them and has errors of its own. -/
theorem agreesWith_ofOptions (va : Validator) {document : Value}
    (hfunction : document.kind ≠ .function) :
    (ofOptions (RenderOptions.validateComplete va document).outcome).AgreesWith
      (va.accepts document RenderOptions.descriptor).outcome.toOption := by
  cases hobject : document.isObject with
  | false =>
    rw [RenderOptions.outcome_validateComplete_of_not_isObject va hobject,
      RenderOptions.accepts_of_not_isObject va hobject hfunction]
    exact .invalid _ _
  | true =>
    have hsame := (va.agree_whole document RenderOptions.descriptor).outcomes
    have hview : RenderOptions.view.NeverFallsBack va OptionsError.factory document :=
      RenderOptions.view_neverFallsBack
    rw [RenderOptions.validateComplete, if_pos hobject]
    cases hcheck : (va.assert document RenderOptions.descriptor).outcome with
    | ok _ =>
      -- what is accepted can be read, so there is a result
      obtain ⟨o, ho⟩ := hview.extracts hcheck
      rw [View.outcome_resolve_eq_ok_iff.mpr ⟨hcheck, ho⟩, hsame.accepted_iff.mpr hcheck]
      exact .ok
    | error failure =>
      rw [(hview.error_iff _).mpr ⟨failure, hcheck, rfl⟩]
      cases failure with
      | invalidType r =>
        rw [hsame.rejected_iff.mpr ⟨r, .inl hcheck⟩]
        exact .invalid _ _
      | missingProperty r =>
        rw [hsame.rejected_iff.mpr ⟨r, .inr hcheck⟩]
        exact .missing _ _
      | fault f =>
        rw [(hsame.faulted_iff f).mpr hcheck]
        exact .fault _

end Observation

variable {f : Fixture} {observed : Observation} {verdict : Option Bool} {mismatch : Mismatch}

/-- The two modes agree on every fixture that can be built. -/
theorem agreesWith_of_observe (h : f.observe = .ok (observed, verdict)) :
    observed.AgreesWith verdict := by
  have hjson := Value.kind_ofJson_ne_function f.document
  cases htarget : f.target with
  | options mergeDefaults =>
    simp only [observe, htarget, Except.ok.injEq, Prod.mk.injEq] at h
    obtain ⟨rfl, rfl⟩ := h
    apply Observation.agreesWith_ofOptions
    cases mergeDefaults with
    | false => exact hjson
    | true =>
      rw [if_pos rfl, RenderOptions.kind_mergeOver]
      exact hjson
  | descriptor spec =>
    simp only [observe, htarget] at h
    cases hbuild : spec.build with
    | error e =>
      rw [hbuild] at h
      cases h
    | ok d =>
      rw [hbuild] at h
      cases h
      exact Observation.agreesWith_ofCheck (f.validator.agree_whole _ d).outcomes

/-- A fixture cannot be run exactly if its descriptor cannot be built. -/
theorem observe_eq_error_iff {e : DescriptorError} :
    f.observe = .error e ↔ ∃ spec, f.target = .descriptor spec ∧ spec.build = .error e := by
  cases htarget : f.target with
  | options mergeDefaults => simp [observe, htarget]
  | descriptor spec =>
    cases hbuild : spec.build <;> simp [observe, htarget, hbuild, Except.map]

-- ════════════════════════════════════════════════════════════════════════
-- What is expected
-- ════════════════════════════════════════════════════════════════════════

/-- An outcome is of the kind that is expected. -/
inductive Expectation.SameKind : Expectation → Observation → Prop
  | ok : SameKind .ok .ok
  | invalid {path observed message : String} {pattern : Option String} :
      SameKind (.invalid path pattern) (.invalid observed message)
  | missing {path observed message : String} {pattern : Option String} :
      SameKind (.missing path pattern) (.missing observed message)
  | fault {message : String} {pattern : Option String} :
      SameKind (.fault pattern) (.fault message)

/-- A message is searched for a pattern in vain, or cannot be searched for it. -/
inductive MessageMisses (message : String) : Option String → Mismatch → Prop
  | pattern {text : String} {refusal : Regex.Refusal} (h : Regex.prepare text = .error refusal) :
      MessageMisses message (some text) (.badPattern text refusal)
  | message {text : String} {r : Regex} (h : Regex.prepare text = .ok r)
      (hno : r.occursIn message = false) :
      MessageMisses message (some text) (.otherMessage message text)

/-- An outcome is at another path than expected, or its message is another. -/
inductive PlaceMisses (path : String) (pattern : Option String) (place message : String) :
    Mismatch → Prop
  | path (h : path ≠ place) :
      PlaceMisses path pattern place message (.otherPath path place message)
  | message {mismatch : Mismatch} (h : path = place)
      (hmessage : MessageMisses message pattern mismatch) :
      PlaceMisses path pattern place message mismatch

/-- An outcome is of another kind than expected, at another path, or has another message. -/
inductive Expectation.Misses : Expectation → Observation → Mismatch → Prop
  | outcome {expected : Expectation} {observed : Observation} (h : ¬ expected.SameKind observed) :
      Misses expected observed (.otherOutcome expected observed)
  | invalid {path place message : String} {pattern : Option String} {mismatch : Mismatch}
      (h : PlaceMisses path pattern place message mismatch) :
      Misses (.invalid path pattern) (.invalid place message) mismatch
  | missing {path place message : String} {pattern : Option String} {mismatch : Mismatch}
      (h : PlaceMisses path pattern place message mismatch) :
      Misses (.missing path pattern) (.missing place message) mismatch
  | fault {message : String} {pattern : Option String} {mismatch : Mismatch}
      (h : MessageMisses message pattern mismatch) :
      Misses (.fault pattern) (.fault message) mismatch

/-- A complaint about the two modes: one of them faults alone, or their verdicts differ. -/
def Mismatch.IsAboutModes : Mismatch → Prop
  | faultInAssertOnly _ _ | faultInPredicateOnly _ | verdictsDiffer _ _ => True
  | _ => False

theorem MessageMisses.not_isAboutModes {message : String} {pattern : Option String}
    (h : MessageMisses message pattern mismatch) : ¬ mismatch.IsAboutModes := by
  cases h <;> exact id

theorem PlaceMisses.not_isAboutModes {path place message : String} {pattern : Option String}
    (h : PlaceMisses path pattern place message mismatch) : ¬ mismatch.IsAboutModes := by
  cases h with
  | path _ => exact id
  | message _ hmessage => exact hmessage.not_isAboutModes

theorem Expectation.Misses.not_isAboutModes {expected : Expectation}
    (h : expected.Misses observed mismatch) : ¬ mismatch.IsAboutModes := by
  cases h with
  | outcome _ => exact id
  | invalid h | missing h => exact h.not_isAboutModes
  | fault h => exact h.not_isAboutModes

theorem matchMessage_eq_error_iff {pattern : Option String} {message : String} :
    matchMessage pattern message = .error mismatch ↔ MessageMisses message pattern mismatch := by
  constructor
  · intro h
    cases pattern with
    | none => cases h
    | some text =>
      cases hprepare : Regex.prepare text with
      | error refusal =>
        simp only [matchMessage, hprepare, Except.error.injEq] at h
        subst h
        exact .pattern hprepare
      | ok r =>
        cases hoccurs : r.occursIn message with
        | true => simp [matchMessage, hprepare, hoccurs] at h
        | false =>
          simp only [matchMessage, hprepare, hoccurs, Bool.false_eq_true, if_false,
            Except.error.injEq] at h
          subst h
          exact .message hprepare hoccurs
  · intro h
    cases h with
    | pattern hprepare => simp only [matchMessage, hprepare]
    | message hprepare hno => simp [matchMessage, hprepare, hno]

theorem matchPlace_eq_error_iff {path place message : String} {pattern : Option String} :
    matchPlace path pattern place message = .error mismatch ↔
      PlaceMisses path pattern place message mismatch := by
  by_cases hpath : path = place
  · rw [matchPlace, if_pos hpath, matchMessage_eq_error_iff]
    constructor
    · exact .message hpath
    · rintro (hother | ⟨-, hmessage⟩)
      · exact absurd hpath hother
      · exact hmessage
  · rw [matchPlace, if_neg hpath, Except.error.injEq]
    constructor
    · rintro rfl
      exact .path hpath
    · rintro (_ | ⟨hsame, -⟩)
      · rfl
      · exact absurd hsame hpath

namespace Expectation

variable {expected : Expectation}

theorem compare_iff_of_not_sameKind (hno : ¬ expected.SameKind observed)
    (hcompare : expected.compare observed = .error (.otherOutcome expected observed)) :
    expected.compare observed = .error mismatch ↔ expected.Misses observed mismatch := by
  rw [hcompare, Except.error.injEq]
  constructor
  · rintro rfl
    exact .outcome hno
  · intro h
    cases h with
    | outcome _ => rfl
    | invalid _ => exact absurd .invalid hno
    | missing _ => exact absurd .missing hno
    | fault _ => exact absurd .fault hno

/-- What a comparison complains about is how the outcome differs from what is expected. -/
theorem compare_eq_error_iff :
    expected.compare observed = .error mismatch ↔ expected.Misses observed mismatch := by
  cases expected with
  | ok =>
    cases observed with
    | ok => exact ⟨fun h => (nomatch h), fun | .outcome h => absurd .ok h⟩
    | _ => exact compare_iff_of_not_sameKind (fun h => nomatch h) rfl
  | invalid path pattern =>
    cases observed with
    | invalid place message =>
      refine matchPlace_eq_error_iff.trans ⟨.invalid, fun h => ?_⟩
      cases h with
      | outcome hno => exact absurd .invalid hno
      | invalid h => exact h
    | _ => exact compare_iff_of_not_sameKind (fun h => nomatch h) rfl
  | missing path pattern =>
    cases observed with
    | missing place message =>
      refine matchPlace_eq_error_iff.trans ⟨.missing, fun h => ?_⟩
      cases h with
      | outcome hno => exact absurd .missing hno
      | missing h => exact h
    | _ => exact compare_iff_of_not_sameKind (fun h => nomatch h) rfl
  | fault pattern =>
    cases observed with
    | fault message =>
      refine matchMessage_eq_error_iff.trans ⟨.fault, fun h => ?_⟩
      cases h with
      | outcome hno => exact absurd .fault hno
      | fault h => exact h
    | _ => exact compare_iff_of_not_sameKind (fun h => nomatch h) rfl

end Expectation

-- ════════════════════════════════════════════════════════════════════════
-- Main result
-- ════════════════════════════════════════════════════════════════════════

/-- A fixture that can be run is checked against its expectation alone. -/
theorem check_of_observe (h : f.observe = .ok (observed, verdict)) :
    f.check = f.expect.compare observed := by
  rw [check, h]
  simp only [(agreesWith_of_observe h).agreement_eq_ok]

/-- What the check of a fixture complains about. -/
theorem check_eq_error_iff :
    f.check = .error mismatch ↔
      (∃ spec e, f.target = .descriptor spec ∧ spec.build = .error e ∧
        mismatch = .unbuildable e) ∨
      ∃ observed verdict, f.observe = .ok (observed, verdict) ∧
        f.expect.Misses observed mismatch := by
  cases hobserve : f.observe with
  | error e =>
    obtain ⟨spec, htarget, hbuild⟩ := observe_eq_error_iff.mp hobserve
    rw [check, hobserve]
    constructor
    · rintro ⟨⟩
      exact .inl ⟨spec, e, htarget, hbuild, rfl⟩
    · rintro (⟨spec', e', htarget', hbuild', rfl⟩ | ⟨observed, verdict, hok, -⟩)
      · obtain rfl := Target.descriptor.inj (htarget.symm.trans htarget')
        obtain rfl := Except.error.inj (hbuild.symm.trans hbuild')
        rfl
      · cases hok
  | ok result =>
    obtain ⟨observed, verdict⟩ := result
    rw [check_of_observe hobserve, Expectation.compare_eq_error_iff]
    constructor
    · intro hmisses
      exact .inr ⟨observed, verdict, rfl, hmisses⟩
    · rintro (⟨spec, e, htarget, hbuild, -⟩ | ⟨observed', verdict', hsame, hmisses⟩)
      · cases hobserve.symm.trans (observe_eq_error_iff.mpr ⟨spec, htarget, hbuild⟩)
      · cases hsame
        exact hmisses

/-- A fixture fails only because of what it says: the two modes agree on every fixture whose
    descriptor can be built, so its outcome is compared with what is expected, and a failure says
    how the two differ. None of the complaints about the modes is ever made. -/
theorem check_blames_fixture (f : Fixture) :
    (∀ observed verdict, f.observe = .ok (observed, verdict) →
      observed.AgreesWith verdict ∧ agreement observed verdict = .ok () ∧
      f.check = f.expect.compare observed) ∧
    (∀ mismatch, f.check = .error mismatch ↔
      (∃ spec e, f.target = .descriptor spec ∧ spec.build = .error e ∧
        mismatch = .unbuildable e) ∨
      ∃ observed verdict, f.observe = .ok (observed, verdict) ∧
        f.expect.Misses observed mismatch) ∧
    ∀ mismatch, f.check = .error mismatch → ¬ mismatch.IsAboutModes := by
  refine ⟨?_, fun mismatch => check_eq_error_iff, ?_⟩
  · intro observed verdict h
    have hagrees := agreesWith_of_observe h
    exact ⟨hagrees, hagrees.agreement_eq_ok, check_of_observe h⟩
  · intro mismatch h
    rcases check_eq_error_iff.mp h with ⟨_, _, _, _, rfl⟩ | ⟨_, _, _, hmisses⟩
    · exact id
    · exact hmisses.not_isAboutModes

/-- A list in place of a document of render options, checked as it stands with no level to spare. -/
def listed : Fixture := ⟨"listed", .options false, .arr [], some 0, .fault none⟩

/-- What assert mode says about it. -/
def listedOutcome : Observation :=
  .invalid "" "invalid render option `<root>`: expected object, got array<empty>"

/-- Assert mode refuses the list at its gate, and predicate mode for the first option. That is no
    fault, so the fixture is told that it expected something else. -/
theorem check_blames_fixture_listed :
    listed.observe = .ok (listedOutcome, some false) ∧
    listed.check = .error (.otherOutcome (.fault none) listedOutcome) := by
  have hobserve : listed.observe = .ok (listedOutcome, some false) := rfl
  have hmisses : Expectation.Misses (.fault none) listedOutcome
      (.otherOutcome (.fault none) listedOutcome) := .outcome fun h => nomatch h
  have hblamed := (check_blames_fixture listed).2.1 (.otherOutcome (.fault none) listedOutcome)
  exact ⟨hobserve, hblamed.mpr (.inr ⟨_, _, hobserve, hmisses⟩)⟩

end Fixture

end Conform
