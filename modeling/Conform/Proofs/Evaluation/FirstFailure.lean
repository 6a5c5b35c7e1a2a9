import Conform.Proofs.Evaluation.Culprit
import Conform.Proofs.Evaluation.SideBySide

/-!
# The first failure

Assert mode stops at the first failure. `failures` does not stop: it goes through a value and
gathers every report that there is to write, fields in the order of their declaration and items in
the order of the array, a union or an intersection as one check. Where the guards only answer yes
or no and the limit is out of reach, assert mode ends in the first of them.

## Main definitions

- `Guard.DecidesAt` — a guard answers yes or no at every place
- `Descriptor.failures` — all the reports about a value
- `firstOf` — the outcome of stopping at the first of some failures
- `Validator.FirstFailing` — everything before a reported place passes

## Main results

- `Validator.firstAt` — assert mode ends in the first of the failures
- `Validator.firstFailing_of_assert` — on the way to a failure everything before it passes
- `Validator.reports_first_failure` — both, for a whole value
-/

namespace Conform

/-- A guard answers yes or no wherever it is called within the limit; the answer may depend on the
    place. -/
def Guard.DecidesAt (va : Validator) (g : Guard Descriptor) (verdict : Value → Path → Nat → Bool) :
    Prop :=
  ∀ v path depth, depth ≤ va.maxDepth →
    ((g.body v path).run (va.scopeAt path depth)).outcome = .ok (verdict v path depth)

theorem Guard.DecidesAt.raisesNoReport {va : Validator} {g : Guard Descriptor}
    {verdict : Value → Path → Nat → Bool} (h : g.DecidesAt va verdict) : g.RaisesNoReport va := by
  intro v path depth f hdepth hraised
  cases (h v path depth hdepth).symm.trans hraised

theorem Guard.decidesAt_ofTest (va : Validator) (name : String) (test : Value → Bool) :
    (Guard.ofTest name test).DecidesAt va fun v _ _ => test v := fun _ _ _ _ => rfl

-- ════════════════════════════════════════════════════════════════════════
-- All the failures
-- ════════════════════════════════════════════════════════════════════════

namespace Descriptor

/-- One check: nothing to report, or the report about the value. -/
def complaint (verdict : Bool) (d : Descriptor) (v : Value) (path : Path) : List Failure :=
  if verdict then [] else [.wrongType path d v]

section Failures

variable (verdict : Guard Descriptor → Value → Path → Nat → Bool)

mutual

/-- All the reports about a value at a path and a depth, in order; `verdict` is what the guards
    answer. -/
def failures : Descriptor → Value → Path → Nat → List Failure
  | primitive p, v, path, _ => complaint (p.test v) (primitive p) v path
  | literal s, v, path, _ => complaint (v.asSymbol? == some s) (literal s) v path
  | guard g, v, path, depth => complaint (verdict g v path depth) (guard g) v path
  | arrayOf item, v, path, depth =>
    match v.asArray? with
    | some items =>
      items.zipIdx.flatMap fun (x, i) => failures item x (path.child (.index i)) (depth + 1)
    | none => [.wrongType path (arrayOf item) v]
  | shape ⟨fields⟩, v, path, depth =>
    if v.holdsProperties then failuresOfFields fields v path (depth + 1)
    else [.wrongType path (shape ⟨fields⟩) v]
  | union members, v, path, depth =>
    complaint ((verdictsOf members v path (depth + 1)).any id) (union members) v path
  | intersection members, v, path, depth =>
    complaint ((verdictsOf members v path (depth + 1)).all id) (intersection members) v path

/-- Field by field: a report about a missing property, or those about what is there. -/
def failuresOfFields : List (PropertyKey × Descriptor) → Value → Path → Nat → List Failure
  | [], _, _, _ => []
  | (key, field) :: fields, v, path, depth =>
    (match v.get? key with
      | some property => failures field property (path.child key) depth
      | none => [.absent (path.child key) field]) ++ failuresOfFields fields v path depth

/-- Which of some members have nothing to report. -/
def verdictsOf : List Descriptor → Value → Path → Nat → List Bool
  | [], _, _, _ => []
  | d :: ds, v, path, depth => (failures d v path depth).isEmpty :: verdictsOf ds v path depth

end

end Failures

variable {verdict : Guard Descriptor → Value → Path → Nat → Bool}

theorem failuresOfFields_eq_flatMap (fields : List (PropertyKey × Descriptor)) (v : Value)
    (path : Path) (depth : Nat) :
    failuresOfFields verdict fields v path depth = fields.flatMap fun entry =>
      match v.get? entry.1 with
      | some property => entry.2.failures verdict property (path.child entry.1) depth
      | none => [.absent (path.child entry.1) entry.2] := by
  induction fields with
  | nil => rw [failuresOfFields, List.flatMap_nil]
  | cons entry fields ih =>
    rw [failuresOfFields, ih, List.flatMap_cons]

theorem verdictsOf_eq_map (members : List Descriptor) (v : Value) (path : Path) (depth : Nat) :
    verdictsOf verdict members v path depth =
      members.map fun member => (member.failures verdict v path depth).isEmpty := by
  induction members with
  | nil => rw [verdictsOf, List.map_nil]
  | cons member members ih => rw [verdictsOf, ih, List.map_cons]

theorem isVerdict_of_mem_complaint {answer : Bool} {d : Descriptor} {v : Value} {path : Path}
    {f : Failure} (h : f ∈ complaint answer d v path) : f.isVerdict = true := by
  cases answer with
  | true => cases h
  | false =>
    obtain rfl := List.mem_singleton.mp h
    rfl

mutual

theorem isVerdict_of_mem_failures {f : Failure} :
    ∀ (d : Descriptor) {v : Value} {path : Path} {depth : Nat},
      f ∈ d.failures verdict v path depth → f.isVerdict = true
  | primitive p, _, _, _, h => isVerdict_of_mem_complaint (by rwa [failures] at h)
  | literal s, _, _, _, h => isVerdict_of_mem_complaint (by rwa [failures] at h)
  | guard g, _, _, _, h => isVerdict_of_mem_complaint (by rwa [failures] at h)
  | arrayOf item, v, path, depth, h => by
    rw [failures] at h
    cases hitems : v.asArray? with
    | none =>
      rw [hitems] at h
      obtain rfl := List.mem_singleton.mp h
      rfl
    | some items =>
      rw [hitems] at h
      obtain ⟨⟨x, i⟩, -, hx⟩ := List.mem_flatMap.mp h
      exact isVerdict_of_mem_failures item hx
  | shape ⟨fields⟩, v, path, depth, h => by
    rw [failures] at h
    cases hholds : v.holdsProperties with
    | true =>
      rw [hholds] at h
      exact isVerdict_of_mem_failuresOfFields fields h
    | false =>
      rw [hholds] at h
      obtain rfl := List.mem_singleton.mp h
      rfl
  | union members, _, _, _, h => isVerdict_of_mem_complaint (by rwa [failures] at h)
  | intersection members, _, _, _, h => isVerdict_of_mem_complaint (by rwa [failures] at h)

theorem isVerdict_of_mem_failuresOfFields {f : Failure} :
    ∀ (fields : List (PropertyKey × Descriptor)) {v : Value} {path : Path} {depth : Nat},
      f ∈ failuresOfFields verdict fields v path depth → f.isVerdict = true
  | [], _, _, _, h => by
    rw [failuresOfFields] at h
    cases h
  | (key, field) :: fields, v, path, depth, h => by
    rw [failuresOfFields] at h
    rcases List.mem_append.mp h with hfield | hrest
    · cases hproperty : v.get? key with
      | none =>
        rw [hproperty] at hfield
        obtain rfl := List.mem_singleton.mp hfield
        rfl
      | some property =>
        rw [hproperty] at hfield
        exact isVerdict_of_mem_failures field hfield
    · exact isVerdict_of_mem_failuresOfFields fields hrest

end

end Descriptor

-- ════════════════════════════════════════════════════════════════════════
-- Stopping at the first
-- ════════════════════════════════════════════════════════════════════════

/-- The outcome of stopping at the first of some failures. -/
def firstOf : List Failure → Except Failure Unit
  | [] => .ok ()
  | f :: _ => .error f

theorem firstOf_append (fs gs : List Failure) :
    firstOf (fs ++ gs) = firstOf fs >>= fun _ => firstOf gs := by
  cases fs <;> rfl

theorem firstOf_eq_ok_iff {fs : List Failure} : firstOf fs = .ok () ↔ fs = [] := by
  cases fs <;> simp [firstOf]

theorem firstOf_eq_error_iff {fs : List Failure} {f : Failure} :
    firstOf fs = .error f ↔ fs.head? = some f := by
  cases fs <;> simp [firstOf]

/-- The verdict of stopping at the first of some failures about the value. -/
theorem verdictOf_firstOf {fs : List Failure} (h : ∀ f ∈ fs, f.isVerdict = true) :
    Scope.verdictOf ((firstOf fs).map fun _ => true) = .ok fs.isEmpty := by
  cases fs with
  | nil => rfl
  | cons f fs =>
    have hf := h f List.mem_cons_self
    cases f with
    | fault => cases hf
    | _ => rfl

namespace Eval

variable {ε α : Type}

/-- A loop stops at the first failure of its rounds. -/
theorem outcome_forM_eq_firstOf {xs : List α} {body : α → Eval Failure PUnit}
    {fs : α → List Failure} (h : ∀ x ∈ xs, (body x).outcome = firstOf (fs x)) :
    (xs.forM body).outcome = firstOf (xs.flatMap fs) := by
  induction xs with
  | nil => rfl
  | cons x xs ih =>
    have hrest := ih fun y hy => h y (List.mem_cons_of_mem x hy)
    rw [outcome_forM_cons, List.flatMap_cons, firstOf_append, h x List.mem_cons_self, hrest]

theorem outcome_anyM_eq {xs : List α} {g : α → Eval ε Bool} {verdict : α → Bool}
    (h : ∀ x ∈ xs, (g x).outcome = .ok (verdict x)) :
    (xs.anyM g).outcome = .ok ((xs.map verdict).any id) := by
  induction xs with
  | nil => rfl
  | cons x xs ih =>
    have hrest := ih fun y hy => h y (List.mem_cons_of_mem x hy)
    rw [List.anyM, outcome_bind, h x List.mem_cons_self, List.map_cons, List.any_cons, id]
    cases verdict x with
    | true => rfl
    | false => exact hrest

theorem outcome_allM_eq {xs : List α} {g : α → Eval ε Bool} {verdict : α → Bool}
    (h : ∀ x ∈ xs, (g x).outcome = .ok (verdict x)) :
    (xs.allM g).outcome = .ok ((xs.map verdict).all id) := by
  induction xs with
  | nil => rfl
  | cons x xs ih =>
    have hrest := ih fun y hy => h y (List.mem_cons_of_mem x hy)
    rw [List.allM, outcome_bind, h x List.mem_cons_self, List.map_cons, List.all_cons, id]
    cases verdict x with
    | true => exact hrest
    | false => rfl

theorem outcome_expectType (answer : Bool) (d : Descriptor) (v : Value) (path : Path) :
    (expectType answer path d v).outcome = firstOf (d.complaint answer v path) := by
  cases answer <;> rfl

theorem outcome_report {y : Eval Failure Bool} {answer : Bool} (h : y.outcome = .ok answer)
    (d : Descriptor) (v : Value) (path : Path) :
    (y >>= fun verdict => expectType verdict path d v).outcome =
      firstOf (d.complaint answer v path) := by
  rw [outcome_bind, h]
  exact outcome_expectType answer d v path

end Eval

namespace Validator

variable {va : Validator} {verdict : Guard Descriptor → Value → Path → Nat → Bool} {depth : Nat}

/-- Assert mode ends in the first of the failures, and predicate mode answers whether there are
    none, for the descriptors that the limit leaves room for. -/
def FirstAt (va : Validator) (verdict : Guard Descriptor → Value → Path → Nat → Bool)
    (depth : Nat) : Prop :=
  ∀ (d : Descriptor) (v : Value) (path : Path),
    d.AllGuards (fun g => g.DecidesAt va (verdict g)) → d.height + depth ≤ va.maxDepth →
    ((va.levelAt depth).assert v d path).outcome = firstOf (d.failures verdict v path depth) ∧
    ((va.levelAt depth).accepts v d path).outcome =
      .ok (d.failures verdict v path depth).isEmpty

/-- One step of assert mode ends in the first of the failures if the level below does. -/
theorem firstOf_here (hdepth : depth ≤ va.maxDepth) (hbelow : FirstAt va verdict (depth + 1))
    (d : Descriptor) (v : Value) (path : Path)
    (hguards : d.AllGuards fun g => g.DecidesAt va (verdict g))
    (hheight : d.height + depth ≤ va.maxDepth) :
    ((va.scopeAt path depth).assertHere v d).outcome =
      firstOf (d.failures verdict v path depth) := by
  have hmember {c : Combinator} {members : List Descriptor} (hd : d = c.of members) :
      ∀ member ∈ members,
        (((va.levelAt (depth + 1)).accepts v member path).mapError Failure.fault).outcome =
          .ok (member.failures verdict v path (depth + 1)).isEmpty := by
    subst hd
    intro member hmem
    have hlower := Descriptor.height_lt_of_mem_of c hmem
    have hanswer := (hbelow member v path ((Descriptor.allGuards_of c).mp hguards member hmem)
      (by omega)).2
    rw [Eval.mapError, hanswer]
    rfl
  cases d with
  | primitive p =>
    rw [Descriptor.failures]
    exact Eval.outcome_expectType _ _ v path
  | literal s =>
    rw [Descriptor.failures, Scope.assertHere_literal]
    exact Eval.outcome_expectType _ _ v path
  | guard g =>
    have hanswer : (g.call (va.scopeAt path depth) v).outcome = .ok (verdict g v path depth) :=
      Descriptor.allGuards_guard.mp hguards v path depth hdepth
    rw [Descriptor.failures]
    exact Eval.outcome_report hanswer _ v path
  | arrayOf item =>
    have hlower := item.height_lt_arrayOf
    rw [Descriptor.failures, Scope.assertHere_arrayOf]
    cases v.asArray? with
    | none => rfl
    | some items =>
      refine Eval.outcome_forM_eq_firstOf fun entry _ => ?_
      exact (hbelow item entry.1 _ (Descriptor.allGuards_arrayOf.mp hguards) (by omega)).1
  | shape fields =>
    obtain ⟨fields⟩ := fields
    rw [Descriptor.failures]
    simp only [Scope.assertHere]
    cases v.holdsProperties with
    | false => rfl
    | true =>
      rw [if_pos rfl, if_pos rfl, Descriptor.failuresOfFields_eq_flatMap]
      refine Eval.outcome_forM_eq_firstOf fun entry hentry => ?_
      have hlower : entry.2.height < (Descriptor.shape ⟨fields⟩).height :=
        Descriptor.height_lt_of_mem_fields hentry
      cases v.get? entry.1 with
      | none => rfl
      | some property =>
        exact (hbelow entry.2 property _ (Descriptor.allGuards_shape.mp hguards entry hentry)
          (by omega)).1
  | union members =>
    rw [Descriptor.failures, Descriptor.verdictsOf_eq_map]
    exact Eval.outcome_report (Eval.outcome_anyM_eq (hmember (c := .union) rfl)) _ v path
  | intersection members =>
    rw [Descriptor.failures, Descriptor.verdictsOf_eq_map]
    exact Eval.outcome_report (Eval.outcome_allM_eq (hmember (c := .intersection) rfl)) _ v path

/-- So does assert mode at every depth, and predicate mode tells whether there is a failure. -/
theorem firstAt (va : Validator) (verdict : Guard Descriptor → Value → Path → Nat → Bool)
    (depth : Nat) : FirstAt va verdict depth := by
  induction depth using va.depth_induction with
  | beyond depth hdepth =>
    intro d v path _ hheight
    omega
  | within depth hdepth ih =>
    intro d v path hguards hheight
    have hassert : ((va.levelAt depth).assert v d path).outcome =
        firstOf (d.failures verdict v path depth) := by
      rw [outcome_assert_of_le hdepth]
      exact firstOf_here hdepth ih d v path hguards hheight
    refine ⟨hassert, ?_⟩
    have hagree := (va.level_agrees (va.maxDepth + 1 - depth) v d path).outcome_eq
    rw [levelAt] at hassert ⊢
    rw [hagree, hassert]
    exact verdictOf_firstOf fun f hf => d.isVerdict_of_mem_failures hf

-- ════════════════════════════════════════════════════════════════════════
-- What comes before a failure
-- ════════════════════════════════════════════════════════════════════════

/-- A value passes a descriptor at a path and a depth. -/
def Passes (va : Validator) (v : Value) (d : Descriptor) (path : Path) (depth : Nat) : Prop :=
  ((va.levelAt depth).assert v d path).outcome = .ok ()

/-- A failure of a value that is checked at a path and a depth, and everything before the place it
    is about: the items that come first pass, and the fields that are declared first are there and
    pass. -/
inductive FirstFailing (va : Validator) : Value → Descriptor → Path → Nat → Failure → Prop
  /-- The value itself has the wrong type. -/
  | here {v : Value} {d : Descriptor} {path : Path} {depth : Nat}
      (h : ((va.levelAt depth).accepts v d path).outcome = .ok false) :
      FirstFailing va v d path depth (.wrongType path d v)
  /-- An item fails, after items that pass. -/
  | item {before after : List Value} {x : Value} {item : Descriptor} {path : Path} {depth : Nat}
      {f : Failure}
      (hbefore : ∀ entry ∈ before.zipIdx,
        va.Passes entry.1 item (path.child (.index entry.2)) (depth + 1))
      (h : FirstFailing va x item (path.child (.index before.length)) (depth + 1) f) :
      FirstFailing va (.array (before ++ x :: after)) (.arrayOf item) path depth f
  /-- A property is missing, after fields that pass. -/
  | absent {v : Value} {before after : List (PropertyKey × Descriptor)} {key : PropertyKey}
      {field : Descriptor} {path : Path} {depth : Nat} (hholds : v.holdsProperties = true)
      (hbefore : ∀ entry ∈ before, ∃ property, v.get? entry.1 = some property ∧
        va.Passes property entry.2 (path.child entry.1) (depth + 1))
      (hmissing : v.get? key = none) :
      FirstFailing va v (.shape ⟨before ++ (key, field) :: after⟩) path depth
        (.absent (path.child key) field)
  /-- A property fails, after fields that pass. -/
  | field {v x : Value} {before after : List (PropertyKey × Descriptor)} {key : PropertyKey}
      {field : Descriptor} {path : Path} {depth : Nat} {f : Failure}
      (hbefore : ∀ entry ∈ before, ∃ property, v.get? entry.1 = some property ∧
        va.Passes property entry.2 (path.child entry.1) (depth + 1))
      (hproperty : v.get? key = some x)
      (h : FirstFailing va x field (path.child key) (depth + 1) f) :
      FirstFailing va v (.shape ⟨before ++ (key, field) :: after⟩) path depth f

/-- A failure of a list is that of an item, after items that pass. -/
theorem firstFailing_of_items {items : List Value} {item : Descriptor} {path : Path} {f : Failure}
    (hitem : ∀ {x : Value} {place : Path},
      ((va.levelAt (depth + 1)).assert x item place).outcome = .error f →
        FirstFailing va x item place (depth + 1) f)
    (h : ((va.scopeAt path depth).assertHere (.array items) (.arrayOf item)).outcome = .error f) :
    FirstFailing va (.array items) (.arrayOf item) path depth f := by
  obtain ⟨passed, ⟨x, i⟩, rest, hsplit, hpassed, hx⟩ := Eval.outcome_forM_eq_error_iff.mp h
  obtain ⟨before, rest', rfl, rfl, hrest⟩ := List.zipIdx_eq_append_iff.mp hsplit
  obtain ⟨_, after, rfl, hentry, -⟩ := List.zipIdx_eq_cons_iff.mp hrest.symm
  obtain ⟨rfl, rfl⟩ := Prod.mk.inj hentry
  rw [Nat.zero_add] at hx
  exact .item hpassed (hitem hx)

/-- A failure of a shape is that of a field, after fields that are there and pass. -/
theorem firstFailing_of_fields {v : Value} {fields : List (PropertyKey × Descriptor)} {path : Path}
    {f : Failure} (hholds : v.holdsProperties = true)
    (hfield : ∀ {x : Value} {place : Path}, ∀ entry ∈ fields,
      ((va.levelAt (depth + 1)).assert x entry.2 place).outcome = .error f →
        FirstFailing va x entry.2 place (depth + 1) f)
    (h : ((va.scopeAt path depth).assertHere v (.shape ⟨fields⟩)).outcome = .error f) :
    FirstFailing va v (.shape ⟨fields⟩) path depth f := by
  simp only [Scope.assertHere, hholds, if_true] at h
  obtain ⟨before, ⟨key, field⟩, after, rfl, hpassed, hfailed⟩ :=
    Eval.outcome_forM_eq_error_iff.mp h
  have hbefore : ∀ entry ∈ before, ∃ property, v.get? entry.1 = some property ∧
      va.Passes property entry.2 (path.child entry.1) (depth + 1) := by
    intro entry hentry
    have hentry := hpassed entry hentry
    cases hproperty : v.get? entry.1 with
    | none =>
      simp only [hproperty] at hentry
      cases hentry
    | some property =>
      simp only [hproperty] at hentry
      exact ⟨property, rfl, hentry⟩
  cases hproperty : v.get? key with
  | none =>
    simp only [hproperty] at hfailed
    obtain rfl := Except.error.inj hfailed
    exact .absent hholds hbefore hproperty
  | some x =>
    simp only [hproperty] at hfailed
    have hmem : (key, field) ∈ before ++ (key, field) :: after :=
      List.mem_append_right before List.mem_cons_self
    exact .field hbefore hproperty (hfield _ hmem hfailed)

/-- On the way to a failure about the value everything before it passes, if the guards raise no
    reports of their own. -/
theorem firstFailing_of_assert {v : Value} {d : Descriptor} {path : Path} {f : Failure}
    (hguards : d.AllGuards fun g => g.RaisesNoReport va)
    (h : ((va.levelAt depth).assert v d path).outcome = .error f) (hverdict : f.isVerdict = true) :
    FirstFailing va v d path depth f := by
  induction depth using va.depth_induction generalizing v d path with
  | beyond depth hdepth =>
    rw [levelAt_of_lt hdepth] at h
    cases h
    cases hverdict
  | within depth hdepth ih =>
    have hwhole (hf : f = .wrongType path d v) : FirstFailing va v d path depth f := by
      subst hf
      have hagree := (va.level_agrees (va.maxDepth + 1 - depth) v d path).outcomes
      exact .here (hagree.rejected_iff.mpr ⟨_, .inl h⟩)
    rw [outcome_assert_of_le hdepth] at h
    -- only items and fields are failed for one after the other
    cases d with
    | arrayOf item =>
      cases v with
      | array items => exact firstFailing_of_items (ih (Descriptor.allGuards_arrayOf.mp hguards)) h
      | _ => exact hwhole (Except.error.inj h).symm
    | shape fields =>
      cases hholds : v.holdsProperties with
      | true =>
        refine firstFailing_of_fields hholds (fun entry hentry => ih ?_) h
        exact Descriptor.allGuards_shape.mp hguards entry hentry
      | false =>
        simp only [Scope.assertHere, hholds] at h
        exact hwhole (Except.error.inj h).symm
    | _ =>
      cases Scope.failsBy_of_assertHere h with
      | fault => cases hverdict
      | raised hguard hraised =>
        rw [hguard] at hguards
        obtain ⟨fault, rfl⟩ := Descriptor.allGuards_guard.mp hguards v path depth f hdepth hraised
        cases hverdict
      | here => exact hwhole rfl
      | absent hshape => cases hshape
      | further _ hpart => cases hpart

-- ════════════════════════════════════════════════════════════════════════
-- Main result
-- ════════════════════════════════════════════════════════════════════════

/-- Where guards answer yes or no and the limit is out of reach, an assertion succeeds if there is
    nothing to report, and else it ends in the first of all the failures. On the way to the place
    that it reports every item that comes first passes, and every field that is declared first is
    there and passes. -/
theorem reports_first_failure (v : Value) (d : Descriptor)
    (hguards : d.AllGuards fun g => g.DecidesAt va (verdict g)) (hheight : d.height ≤ va.maxDepth) :
    ((va.assert v d).outcome = .ok () ↔ d.failures verdict v .root 0 = []) ∧
    (∀ f, (va.assert v d).outcome = .error f ↔
      (d.failures verdict v .root 0).head? = some f) ∧
    ∀ f, (va.assert v d).outcome = .error f → FirstFailing va v d .root 0 f := by
  have hfirst : (va.assert v d).outcome = firstOf (d.failures verdict v .root 0) :=
    (firstAt va verdict 0 d v .root hguards hheight).1
  refine ⟨?_, ?_, ?_⟩
  · rw [hfirst, firstOf_eq_ok_iff]
  · intro f
    rw [hfirst, firstOf_eq_error_iff]
  · intro f hf
    have hmem : f ∈ d.failures verdict v .root 0 :=
      List.mem_of_head? (firstOf_eq_error_iff.mp (hfirst.symm.trans hf))
    exact firstFailing_of_assert (hguards.imp fun g hg => hg.raisesNoReport) hf
      (d.isVerdict_of_mem_failures hmem)

/-- Entries of which each has a size that is a text and a list of names. -/
def sizedEntries : Descriptor :=
  .arrayOf (.shape ⟨[(.string "size", .guard (.ofTest "text" fun v => v.kind == .string)),
    (.string "names", .arrayOf (.primitive .string))]⟩)

/-- The second entry has two bad names and lacks its size, and the third is no entry at all: the
    size is declared before the names. -/
theorem reports_first_failure_sizedEntries :
    sizedEntries.AllGuards (fun g => g.DecidesAt ⟨3, fun _ => none⟩
      fun v _ _ => v.kind == .string) ∧
    sizedEntries.height ≤ 3 ∧
    sizedEntries.failures (fun _ v _ _ => v.kind == .string)
        (.array [.object ⟨[(.string "names", .array []), (.string "size", .string "a")]⟩,
          .object ⟨[(.string "names", .array [.null, .string "b", .bool true])]⟩, .null])
        .root 0 =
      [.missingProperty ⟨⟨[.index 1, .string "size"]⟩, "guard(text)", none⟩,
        .invalidType ⟨⟨[.index 1, .string "names", .index 0]⟩, "string", some "null"⟩,
        .invalidType ⟨⟨[.index 1, .string "names", .index 2]⟩, "string", some "boolean(true)"⟩,
        .invalidType ⟨⟨[.index 2]⟩, "object", some "null"⟩] ∧
    (assert ⟨3, fun _ => none⟩
        (.array [.object ⟨[(.string "names", .array []), (.string "size", .string "a")]⟩,
          .object ⟨[(.string "names", .array [.null, .string "b", .bool true])]⟩, .null])
        sizedEntries).outcome =
      .error (.missingProperty ⟨⟨[.index 1, .string "size"]⟩, "guard(text)", none⟩) := by
  have hguards : sizedEntries.AllGuards (fun g => g.DecidesAt ⟨3, fun _ => none⟩
      ((fun _ v _ _ => v.kind == .string) g)) := by
    simp [sizedEntries, Guard.decidesAt_ofTest]
  have hheight : sizedEntries.height ≤ 3 := by decide
  refine ⟨hguards, hheight, rfl, ?_⟩
  exact ((reports_first_failure _ sizedEntries hguards hheight).2.1 _).mpr rfl

end Validator

end Conform
