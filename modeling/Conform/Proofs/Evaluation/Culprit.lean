import Conform.Proofs.Descriptor.Structure
import Conform.Proofs.Evaluation.Agreement

/-!
# Culprits of an assertion

A report of assert mode names the part that is at fault: its keys lead through the value to what
was found, and through the descriptor to what was expected there. The two walks stay in step
because a failing step either fails at its own place, or misses a property there, or hands on the
failure of the level below one key further on. Nothing leads into a union, an intersection or a
guard, so none of their parts is ever named.

## Main definitions

- `Value.follow?` — the part of a value that some keys lead to
- `Descriptor.Leads` — the part of a descriptor that some keys lead to
- `Guard.RaisesNoReport` — a guard answers yes or no, or ends in a fault
- `Scope.FailsBy` — how one step of assert mode can fail
- `Validator.Culprit` — what a failure says about a value and a descriptor

## Main results

- `Scope.failsBy_of_assertHere` — every failing step fails in one of these ways
- `Validator.culprit_of_assert` — every failure of assert mode names a culprit or is a fault
- `Validator.report_names_culprit` — what the reports of assert mode say
-/

namespace Conform

-- ════════════════════════════════════════════════════════════════════════
-- Following keys
-- ════════════════════════════════════════════════════════════════════════

namespace Path

/-- The path some keys further on. -/
def extend (p : Path) (keys : List PropertyKey) : Path := ⟨p.keys ++ keys⟩

@[simp] theorem extend_nil (p : Path) : p.extend [] = p := by
  rw [extend, List.append_nil]

@[simp] theorem child_extend (p : Path) (key : PropertyKey) (keys : List PropertyKey) :
    (p.child key).extend keys = p.extend (key :: keys) := by
  rw [extend, extend, child, List.append_assoc, List.singleton_append]

end Path

/-- The part of a value that some keys lead to, by property lookup. -/
def Value.follow? (v : Value) (keys : List PropertyKey) : Option Value := keys.foldlM Value.get? v

theorem Value.follow?_cons {v x : Value} {key : PropertyKey} (h : v.get? key = some x)
    (keys : List PropertyKey) : v.follow? (key :: keys) = x.follow? keys := by
  rw [follow?, List.foldlM_cons, h]
  rfl

namespace Descriptor

/-- One key leads from a descriptor to a part of it: an index to the items of an array, and a
    declared key to its field. -/
inductive PartAt : Descriptor → PropertyKey → Descriptor → Prop
  | item (item : Descriptor) (i : Nat) : PartAt (arrayOf item) (.index i) item
  | field {fields : Entries Descriptor} {key : PropertyKey} {field : Descriptor}
      (h : (key, field) ∈ fields.toList) : PartAt (shape fields) key field

/-- Some keys lead from a descriptor to a part of it. -/
inductive Leads : Descriptor → List PropertyKey → Descriptor → Prop
  | here (d : Descriptor) : Leads d [] d
  | further {d inner e : Descriptor} {key : PropertyKey} {keys : List PropertyKey}
      (h : PartAt d key inner) (hkeys : Leads inner keys e) : Leads d (key :: keys) e

/-- The guards of a part are guards of the whole. -/
theorem AllGuards.partAt {P : Guard Descriptor → Prop} {d inner : Descriptor} {key : PropertyKey}
    (hguards : d.AllGuards P) (h : PartAt d key inner) : inner.AllGuards P := by
  cases h with
  | item item i => exact allGuards_arrayOf.mp hguards
  | field h => exact allGuards_shape.mp hguards _ h

end Descriptor

-- ════════════════════════════════════════════════════════════════════════
-- Failing steps
-- ════════════════════════════════════════════════════════════════════════

namespace Eval

/-- A test that does not come out fails with a report about the value. -/
theorem eq_wrongType_of_expectType {verdict : Bool} {path : Path} {d : Descriptor} {v : Value}
    {f : Failure} (h : (expectType verdict path d v).outcome = .error f) :
    f = .wrongType path d v := by
  cases verdict with
  | true => cases h
  | false => exact (Except.error.inj h).symm

/-- A question that assert mode passes on fails with its fault, or with a report about the value. -/
theorem fault_or_wrongType {y : Eval Fault Bool} {path : Path} {d : Descriptor} {v : Value}
    {f : Failure}
    (h : (y.mapError .fault >>= fun verdict => expectType verdict path d v).outcome = .error f) :
    (∃ fault, f = .fault fault) ∨ f = .wrongType path d v := by
  obtain ⟨events, outcome⟩ := y
  cases outcome with
  | error fault => exact .inl ⟨fault, (Except.error.inj h).symm⟩
  | ok verdict => exact .inr (eq_wrongType_of_expectType h)

end Eval

namespace Scope

/-- How one step of assert mode can fail. -/
inductive FailsBy (scope : Scope) (v : Value) (d : Descriptor) : Failure → Prop
  /-- No verdict was reached. -/
  | fault (fault : Fault) : FailsBy scope v d (.fault fault)
  /-- A guard raised the failure. -/
  | raised {g : Guard Descriptor} {f : Failure} (hguard : d = .guard g)
      (h : ((g.body v scope.path).run scope).outcome = .error f) : FailsBy scope v d f
  /-- The value itself has the wrong type. -/
  | here : FailsBy scope v d (.wrongType scope.path d v)
  /-- A declared property is missing. -/
  | absent {fields : Entries Descriptor} {key : PropertyKey} {field : Descriptor}
      (hshape : d = .shape fields) (hholds : v.holdsProperties = true)
      (hfield : (key, field) ∈ fields.toList) (hmissing : v.get? key = none) :
      FailsBy scope v d (.absent (scope.path.child key) field)
  /-- A part of the value fails one key further on. -/
  | further {key : PropertyKey} {x : Value} {inner : Descriptor} {f : Failure}
      (hvalue : v.get? key = some x) (hpart : d.PartAt key inner)
      (h : (scope.below.assert x inner (scope.path.child key)).outcome = .error f) :
      FailsBy scope v d f

/-- Every failing step of assert mode fails in one of these ways. -/
theorem failsBy_of_assertHere {scope : Scope} {v : Value} {d : Descriptor} {f : Failure}
    (h : (scope.assertHere v d).outcome = .error f) : scope.FailsBy v d f := by
  cases d with
  | primitive p =>
    obtain rfl := Eval.eq_wrongType_of_expectType h
    exact .here
  | literal s =>
    cases v with
    | symbol t =>
      obtain rfl := Eval.eq_wrongType_of_expectType h
      exact .here
    | _ => cases h; exact .here
  | guard g =>
    rcases Eval.outcome_bind_eq_error.mp h with hraised | ⟨verdict, _, hverdict⟩
    · exact .raised rfl hraised
    · obtain rfl := Eval.eq_wrongType_of_expectType hverdict
      exact .here
  | arrayOf item =>
    cases v with
    | array items =>
      obtain ⟨⟨x, i⟩, hmem, hx⟩ := Eval.outcome_forM_eq_error h
      have hvalue : (Value.array items).get? (.index i) = some x :=
        List.mk_mem_zipIdx_iff_getElem?.mp hmem
      exact .further hvalue (.item item i) hx
    | _ => cases h; exact .here
  | union members =>
    simp only [assertHere, Eval.anyM_mapError] at h
    rcases Eval.fault_or_wrongType h with ⟨fault, rfl⟩ | rfl
    · exact .fault fault
    · exact .here
  | intersection members =>
    simp only [assertHere, Eval.allM_mapError] at h
    rcases Eval.fault_or_wrongType h with ⟨fault, rfl⟩ | rfl
    · exact .fault fault
    · exact .here
  | shape fields =>
    simp only [assertHere] at h
    cases hholds : v.holdsProperties with
    | false =>
      simp only [hholds] at h
      cases h
      exact .here
    | true =>
      simp only [hholds, if_true] at h
      obtain ⟨⟨key, field⟩, hfield, hentry⟩ := Eval.outcome_forM_eq_error h
      cases hvalue : v.get? key with
      | none =>
        simp only [hvalue] at hentry
        cases hentry
        exact .absent rfl hholds hfield hvalue
      | some x =>
        simp only [hvalue] at hentry
        exact .further hvalue (.field hfield) hentry

end Scope

-- ════════════════════════════════════════════════════════════════════════
-- Culprits
-- ════════════════════════════════════════════════════════════════════════

/-- A guard answers yes or no, or ends in a fault: it writes no report of its own. -/
def Guard.RaisesNoReport (va : Validator) (g : Guard Descriptor) : Prop :=
  ∀ v path depth f, depth ≤ va.maxDepth →
    ((g.body v path).run (va.scopeAt path depth)).outcome = .error f → ∃ fault, f = .fault fault

theorem Guard.raisesNoReport_ofTest (va : Validator) (name : String) (test : Value → Bool) :
    (Guard.ofTest name test).RaisesNoReport va := fun _ _ _ _ _ h => nomatch h

namespace Validator

/-- What a failure says about a value and a descriptor that were checked at a path and a depth. -/
inductive Culprit (va : Validator) (v : Value) (d : Descriptor) (path : Path) (depth : Nat) :
    Failure → Prop
  /-- No verdict was reached. -/
  | fault (fault : Fault) : Culprit va v d path depth (.fault fault)
  /-- Some keys lead to a part of the value and to a part of the descriptor that rejects it. -/
  | wrongType {keys : List PropertyKey} {w : Value} {e : Descriptor}
      (hvalue : v.follow? keys = some w) (hleads : d.Leads keys e)
      (hrejects : ((va.levelAt (depth + keys.length)).accepts w e (path.extend keys)).outcome =
        .ok false) :
      Culprit va v d path depth (.wrongType (path.extend keys) e w)
  /-- Some keys lead to a holder of properties and to a shape with a field it does not have. -/
  | absent {keys : List PropertyKey} {w : Value} {fields : Entries Descriptor} {key : PropertyKey}
      {field : Descriptor} (hvalue : v.follow? keys = some w)
      (hleads : d.Leads keys (.shape fields)) (hholds : w.holdsProperties = true)
      (hfield : (key, field) ∈ fields.toList) (hmissing : w.get? key = none) :
      Culprit va v d path depth (.absent ((path.extend keys).child key) field)

namespace Culprit

variable {va : Validator} {v x : Value} {d inner : Descriptor} {path : Path} {depth : Nat}
  {f : Failure}

/-- A value that is rejected is a culprit itself. -/
theorem here (hrejects : ((va.levelAt depth).accepts v d path).outcome = .ok false) :
    Culprit va v d path depth (.wrongType path d v) := by
  have h : Culprit va v d path depth (.wrongType (path.extend []) d v) :=
    .wrongType rfl (.here d) (by rw [Path.extend_nil]; exact hrejects)
  rwa [Path.extend_nil] at h

/-- So is a holder of properties that lacks one that is declared. -/
theorem absentHere {fields : Entries Descriptor} {key : PropertyKey} {field : Descriptor}
    (hholds : v.holdsProperties = true) (hfield : (key, field) ∈ fields.toList)
    (hmissing : v.get? key = none) :
    Culprit va v (.shape fields) path depth (.absent (path.child key) field) := by
  have h : Culprit va v (.shape fields) path depth
      (.absent ((path.extend []).child key) field) :=
    .absent rfl (.here _) hholds hfield hmissing
  rwa [Path.extend_nil] at h

/-- A culprit of a part is a culprit of the whole. -/
theorem further {key : PropertyKey} (hvalue : v.get? key = some x) (hpart : d.PartAt key inner)
    (h : Culprit va x inner (path.child key) (depth + 1) f) : Culprit va v d path depth f := by
  cases h with
  | fault fault => exact .fault fault
  | @wrongType keys w e hw hleads hrejects =>
    have hdepth : depth + 1 + keys.length = depth + (key :: keys).length := by
      rw [List.length_cons]
      omega
    rw [Path.child_extend, hdepth] at hrejects
    rw [Path.child_extend]
    exact .wrongType ((Value.follow?_cons hvalue keys).trans hw) (.further hpart hleads) hrejects
  | @absent keys w fields key' field hw hleads hholds hfield hmissing =>
    rw [Path.child_extend]
    exact .absent ((Value.follow?_cons hvalue keys).trans hw) (.further hpart hleads) hholds hfield
      hmissing

end Culprit

/-- Every failure of assert mode names a culprit or is a fault, if the guards raise no reports. -/
theorem culprit_of_assert {va : Validator} {v : Value} {d : Descriptor} {path : Path}
    {depth : Nat} {f : Failure} (hguards : d.AllGuards fun g => g.RaisesNoReport va)
    (h : ((va.levelAt depth).assert v d path).outcome = .error f) :
    Culprit va v d path depth f := by
  induction depth using va.depth_induction generalizing v d path with
  | beyond depth hdepth =>
    rw [levelAt_of_lt hdepth] at h
    cases h
    exact .fault _
  | within depth hdepth ih =>
    have hstep := h
    rw [outcome_assert_of_le hdepth] at hstep
    cases Scope.failsBy_of_assertHere hstep with
    | fault fault => exact .fault fault
    | raised hguard hraised =>
      subst hguard
      obtain ⟨fault, rfl⟩ := Descriptor.allGuards_guard.mp hguards v path depth f hdepth hraised
      exact .fault fault
    | here =>
      -- predicate mode comes to the same verdict on the same value
      have hagree := (va.level_agrees (va.maxDepth + 1 - depth) v d path).outcomes
      exact .here (hagree.rejected_iff.mpr ⟨_, .inl h⟩)
    | absent hshape hholds hfield hmissing =>
      subst hshape
      exact .absentHere hholds hfield hmissing
    | further hvalue hpart hfurther =>
      exact (ih (hguards.partAt hpart) hfurther).further hvalue hpart

end Validator

-- ════════════════════════════════════════════════════════════════════════
-- Reports
-- ════════════════════════════════════════════════════════════════════════

/-- Only the message of a report without a received text speaks of a missing property. -/
theorem Report.message_eq_missing_iff (r : Report) :
    (∃ rest, r.message = "Missing property" ++ rest) ↔ r.isMissing = true := by
  obtain ⟨path, expected, received⟩ := r
  cases received with
  | none =>
    refine ⟨fun _ => rfl, fun _ => ⟨" " ++ path.location ++ ", expected " ++ expected, ?_⟩⟩
    simp only [message, location, ← String.append_assoc]
    rfl
  | some received =>
    refine ⟨?_, fun h => absurd h (by simp [isMissing])⟩
    rintro ⟨rest, h⟩
    have hchars := congrArg String.toList h
    simp [message, String.toList_append] at hchars

namespace Validator

/-- What the reports of assert mode say, if the guards raise none of their own. The keys of a report
    about a wrong type lead to a part of the value and to a part of the descriptor that rejects it.
    Those of a report about a missing property lead, but for the last one, to a holder of properties
    and to a shape that declares the last one. The two kinds differ in having a received text. -/
theorem report_names_culprit (va : Validator) (v : Value) (d : Descriptor)
    (hguards : d.AllGuards fun g => g.RaisesNoReport va) :
    (∀ r, (va.assert v d).outcome = .error (.invalidType r) →
      ∃ w e, v.follow? r.path.keys = some w ∧ d.Leads r.path.keys e ∧
        ((va.levelAt r.path.length).accepts w e r.path).outcome = .ok false ∧
        r.expected = e.render ∧ r.received = some w.received) ∧
    (∀ r, (va.assert v d).outcome = .error (.missingProperty r) →
      ∃ parent key w fields field, r.path = Path.child parent key ∧
        v.follow? parent.keys = some w ∧ d.Leads parent.keys (.shape fields) ∧
        w.holdsProperties = true ∧ (key, field) ∈ fields.toList ∧ w.has key = false ∧
        r.expected = field.render ∧ r.received = none) ∧
    (∀ f r, (va.assert v d).outcome = .error f → f.report? = some r →
      (f = .missingProperty r ↔ r.isMissing = true) ∧
      (f = .missingProperty r ↔ ∃ rest, f.message = "Missing property" ++ rest)) := by
  have hculprit {f : Failure} (h : (va.assert v d).outcome = .error f) :
      Culprit va v d .root 0 f := culprit_of_assert hguards h
  refine ⟨?_, ?_, ?_⟩
  · intro r h
    cases hculprit h with
    | @wrongType keys w e hvalue hleads hrejects =>
      rw [Nat.zero_add] at hrejects
      exact ⟨w, e, hvalue, hleads, hrejects, rfl, rfl⟩
  · intro r h
    cases hculprit h with
    | @absent keys w fields key field hvalue hleads hholds hfield hmissing =>
      refine ⟨⟨keys⟩, key, w, fields, field, rfl, hvalue, hleads, hholds, hfield, ?_, rfl, rfl⟩
      rw [Value.has, hmissing]
      rfl
  · intro f r h hreport
    have hkind : (f = .missingProperty r ↔ r.isMissing = true) ∧ f.message = r.message := by
      cases hculprit h with
      | fault fault => cases hreport
      | wrongType =>
        cases hreport
        exact ⟨by simp [Failure.wrongType, Report.isMissing], rfl⟩
      | absent =>
        cases hreport
        exact ⟨by simp [Failure.absent, Report.isMissing], rfl⟩
    refine ⟨hkind.1, hkind.1.trans ?_⟩
    rw [hkind.2]
    exact r.message_eq_missing_iff.symm

/-- Objects of which each has a text for its size. -/
def sizes : Descriptor :=
  .arrayOf (.shape ⟨[(.string "size", .guard (.ofTest "text" fun v => v.kind == .string))]⟩)

/-- The second object has nothing for its size; the only object has no size. -/
theorem report_names_culprit_sizes :
    sizes.AllGuards (fun g => g.RaisesNoReport ⟨2, fun _ => none⟩) ∧
    (∃ w e, Value.follow? (.array [.object ⟨[(.string "size", .string "a")]⟩,
        .object ⟨[(.string "size", .null)]⟩]) [.index 1, .string "size"] = some w ∧
      sizes.Leads [.index 1, .string "size"] e ∧
      ((levelAt ⟨2, fun _ => none⟩ 2).accepts w e ⟨[.index 1, .string "size"]⟩).outcome =
        .ok false ∧
      "guard(text)" = e.render ∧ some "null" = some w.received) ∧
    (∃ parent key w fields field, (⟨[.index 0, .string "size"]⟩ : Path) = Path.child parent key ∧
      Value.follow? (.array [.object ⟨[]⟩]) parent.keys = some w ∧
      sizes.Leads parent.keys (.shape fields) ∧ w.holdsProperties = true ∧
      (key, field) ∈ fields.toList ∧ w.has key = false ∧
      "guard(text)" = field.render) := by
  have hguards : sizes.AllGuards (fun g => g.RaisesNoReport ⟨2, fun _ => none⟩) := by
    simp [sizes, Guard.raisesNoReport_ofTest]
  refine ⟨hguards, ?_, ?_⟩
  · exact (report_names_culprit _ _ sizes hguards).1
      ⟨⟨[.index 1, .string "size"]⟩, "guard(text)", some "null"⟩ rfl
  · obtain ⟨parent, key, w, fields, field, hpath, hvalue, hleads, hholds, hfield, hmissing,
        hexpected, _⟩ :=
      (report_names_culprit _ (.array [.object ⟨[]⟩]) sizes hguards).2.1
        ⟨⟨[.index 0, .string "size"]⟩, "guard(text)", none⟩ rfl
    exact ⟨parent, key, w, fields, field, hpath, hvalue, hleads, hholds, hfield, hmissing,
      hexpected⟩

end Validator

end Conform
