import Conform.Proofs.Descriptor.Structure
import Conform.Proofs.Evaluation.Agreement

/-!
# The meaning of descriptors

`Conforms` says what a descriptor demands of a value without order, path or depth. Within the
limit both modes decide it, provided that every guard has a verdict of its own on each value, the
same at every place. Since the meaning knows no order, descriptors that are rearranged into each
other are indistinguishable by the modes.

## Main definitions

- `Guard.Answers` — a guard has a verdict of its own
- `Conforms` — what a descriptor demands, given the verdicts of the guards
- `Rearranged` — the same descriptor up to order, repetition and direct nesting of combinators
- `Eval.Decides` — a question is answered by the truth of a proposition

## Main results

- `Rearranged.conforms_iff` — rearranging does not change the meaning
- `Validator.decides_conforms` — within the limit predicate mode decides the meaning
- `Validator.modes_decide_meaning` — both modes decide the meaning, however it is arranged
-/

namespace Conform

-- ════════════════════════════════════════════════════════════════════════
-- Meaning
-- ════════════════════════════════════════════════════════════════════════

/-- What a descriptor demands of a value, where `verdict` says what the guards think of it. -/
inductive Conforms (verdict : Guard Descriptor → Value → Bool) : Value → Descriptor → Prop
  /-- The test of the base kind holds. -/
  | primitive {v : Value} {p : Primitive} (h : p.test v = true) :
      Conforms verdict v (.primitive p)
  /-- The value is that very symbol. -/
  | literal (s : Symbol) : Conforms verdict (.symbol s) (.literal s)
  /-- The guard's verdict is yes. -/
  | guard {v : Value} {g : Guard Descriptor} (h : verdict g v = true) :
      Conforms verdict v (.guard g)
  /-- The value is an array and every item conforms. -/
  | arrayOf {items : List Value} {item : Descriptor}
      (h : ∀ x ∈ items, Conforms verdict x item) :
      Conforms verdict (.array items) (.arrayOf item)
  /-- The value holds properties; every field's key is present, and what is there conforms. -/
  | shape {v : Value} {fields : Entries Descriptor} (hholds : v.holdsProperties = true)
      (hpresent : ∀ entry ∈ fields.toList, v.has entry.1 = true)
      (h : ∀ entry ∈ fields.toList, ∀ property, v.get? entry.1 = some property →
        Conforms verdict property entry.2) :
      Conforms verdict v (.shape fields)
  /-- Some member is met. -/
  | union {v : Value} {members : List Descriptor} {member : Descriptor}
      (hmem : member ∈ members) (h : Conforms verdict v member) :
      Conforms verdict v (.union members)
  /-- Every member is met. -/
  | intersection {v : Value} {members : List Descriptor}
      (h : ∀ member ∈ members, Conforms verdict v member) :
      Conforms verdict v (.intersection members)

section Conforms

variable {verdict : Guard Descriptor → Value → Bool} {v : Value}

theorem conforms_primitive {p : Primitive} :
    Conforms verdict v (.primitive p) ↔ p.test v = true :=
  ⟨fun | .primitive h => h, .primitive⟩

theorem conforms_literal {s : Symbol} : Conforms verdict v (.literal s) ↔ v = .symbol s :=
  ⟨fun | .literal _ => rfl, fun h => h ▸ .literal s⟩

theorem conforms_guard {g : Guard Descriptor} :
    Conforms verdict v (.guard g) ↔ verdict g v = true :=
  ⟨fun | .guard h => h, .guard⟩

theorem conforms_arrayOf {item : Descriptor} :
    Conforms verdict v (.arrayOf item) ↔
      ∃ items, v = .array items ∧ ∀ x ∈ items, Conforms verdict x item := by
  constructor
  · rintro ⟨⟩
    rename_i items h
    exact ⟨items, rfl, h⟩
  · rintro ⟨items, rfl, h⟩
    exact .arrayOf h

theorem conforms_shape {fields : Entries Descriptor} :
    Conforms verdict v (.shape fields) ↔ v.holdsProperties = true ∧
      ∀ entry ∈ fields.toList, ∃ property, v.get? entry.1 = some property ∧
        Conforms verdict property entry.2 := by
  constructor
  · rintro ⟨⟩
    rename_i hholds hpresent h
    refine ⟨hholds, fun entry hentry => ?_⟩
    obtain ⟨property, hproperty⟩ := Option.isSome_iff_exists.mp (hpresent entry hentry)
    exact ⟨property, hproperty, h entry hentry property hproperty⟩
  · rintro ⟨hholds, h⟩
    refine .shape hholds (fun entry hentry => ?_) (fun entry hentry property hproperty => ?_)
    · obtain ⟨property, hproperty, _⟩ := h entry hentry
      exact Option.isSome_iff_exists.mpr ⟨property, hproperty⟩
    · obtain ⟨property', hproperty', hconforms⟩ := h entry hentry
      cases hproperty.symm.trans hproperty'
      exact hconforms

theorem conforms_union {members : List Descriptor} :
    Conforms verdict v (.union members) ↔ ∃ member ∈ members, Conforms verdict v member :=
  ⟨fun | .union hmem h => ⟨_, hmem, h⟩, fun ⟨_, hmem, h⟩ => .union hmem h⟩

theorem conforms_intersection {members : List Descriptor} :
    Conforms verdict v (.intersection members) ↔ ∀ member ∈ members, Conforms verdict v member :=
  ⟨fun | .intersection h => h, .intersection⟩

end Conforms

-- ════════════════════════════════════════════════════════════════════════
-- Rearranging
-- ════════════════════════════════════════════════════════════════════════

/-- Two descriptors that differ, at any place, in the order of members or fields, in the repetition
    of members, and in combinators that stand directly in the same combinator. -/
inductive Rearranged : Descriptor → Descriptor → Prop
  | refl (d : Descriptor) : Rearranged d d
  | symm {d e : Descriptor} (h : Rearranged d e) : Rearranged e d
  | trans {d e f : Descriptor} (h : Rearranged d e) (h' : Rearranged e f) : Rearranged d f
  /-- The members in another order. -/
  | reorder (c : Combinator) {members members' : List Descriptor} (h : members.Perm members') :
      Rearranged (c.of members) (c.of members')
  /-- A member once more. -/
  | duplicate (c : Combinator) {members : List Descriptor} {d : Descriptor} (h : d ∈ members) :
      Rearranged (c.of members) (c.of (d :: members))
  /-- The members of a union in a union, or of an intersection in an intersection. -/
  | flatten (c : Combinator) (before inner after : List Descriptor) :
      Rearranged (c.of (before ++ c.of inner :: after)) (c.of (before ++ inner ++ after))
  /-- The fields in another order. -/
  | reorderFields {fields fields' : Entries Descriptor} (h : fields.toList.Perm fields'.toList) :
      Rearranged (.shape fields) (.shape fields')
  | inItem {d e : Descriptor} (h : Rearranged d e) : Rearranged (.arrayOf d) (.arrayOf e)
  | inMember (c : Combinator) (before after : List Descriptor) {d e : Descriptor}
      (h : Rearranged d e) :
      Rearranged (c.of (before ++ d :: after)) (c.of (before ++ e :: after))
  | inField (before after : List (PropertyKey × Descriptor)) (key : PropertyKey)
      {d e : Descriptor} (h : Rearranged d e) :
      Rearranged (.shape ⟨before ++ (key, d) :: after⟩) (.shape ⟨before ++ (key, e) :: after⟩)

namespace Rearranged

variable {d e : Descriptor}

/-- Rearranging does not change the meaning. -/
theorem conforms_iff {verdict : Guard Descriptor → Value → Bool} (h : Rearranged d e)
    (v : Value) : Conforms verdict v d ↔ Conforms verdict v e := by
  induction h generalizing v with
  | refl d => exact Iff.rfl
  | symm _ ih => exact (ih v).symm
  | trans _ _ ih ih' => exact (ih v).trans (ih' v)
  | reorder c h =>
    cases c with
    | union => simp only [Combinator.of, conforms_union, h.mem_iff]
    | intersection => simp only [Combinator.of, conforms_intersection, h.mem_iff]
  | duplicate c h =>
    cases c with
    | union =>
      simp only [Combinator.of, conforms_union, List.mem_cons, exists_eq_or_imp]
      exact ⟨.inr, fun h' => h'.elim (fun hd => ⟨_, h, hd⟩) id⟩
    | intersection =>
      simp only [Combinator.of, conforms_intersection, List.mem_cons, forall_eq_or_imp]
      exact ⟨fun h' => ⟨h' _ h, h'⟩, fun h' => h'.2⟩
  | flatten c before inner after =>
    cases c with
    | union =>
      simp only [Combinator.of, conforms_union, List.mem_append, List.mem_cons, or_and_right,
        exists_or, exists_eq_left, or_assoc]
    | intersection =>
      simp only [Combinator.of, conforms_intersection, List.mem_append, List.mem_cons, or_imp,
        forall_and, forall_eq, and_assoc]
  | reorderFields h => simp only [conforms_shape, h.mem_iff]
  | inItem _ ih => simp only [conforms_arrayOf, ih]
  | inMember c before after _ ih =>
    cases c with
    | union =>
      simp only [Combinator.of, conforms_union, List.mem_append, List.mem_cons, or_and_right,
        exists_or, exists_eq_left, ih]
    | intersection =>
      simp only [Combinator.of, conforms_intersection, List.mem_append, List.mem_cons, or_imp,
        forall_and, forall_eq, ih]
  | inField before after key _ ih =>
    simp only [conforms_shape, List.mem_append, List.mem_cons, or_imp, forall_and, forall_eq, ih]

/-- Rearranging neither adds nor removes a guard. -/
theorem allGuards_iff {P : Guard Descriptor → Prop} (h : Rearranged d e) :
    d.AllGuards P ↔ e.AllGuards P := by
  induction h with
  | refl d => exact Iff.rfl
  | symm _ ih => exact ih.symm
  | trans _ _ ih ih' => exact ih.trans ih'
  | reorder c h => simp only [Descriptor.allGuards_of, h.mem_iff]
  | duplicate c h =>
    simp only [Descriptor.allGuards_of, List.mem_cons, forall_eq_or_imp]
    exact ⟨fun h' => ⟨h' _ h, h'⟩, fun h' => h'.2⟩
  | flatten c before inner after =>
    simp only [Descriptor.allGuards_of, List.mem_append, List.mem_cons, or_imp, forall_and,
      forall_eq, and_assoc]
  | reorderFields h => simp only [Descriptor.allGuards_shape, h.mem_iff]
  | inItem _ ih => simp only [Descriptor.allGuards_arrayOf, ih]
  | inMember c before after _ ih =>
    simp only [Descriptor.allGuards_of, List.mem_append, List.mem_cons, or_imp, forall_and,
      forall_eq, ih]
  | inField before after key _ ih =>
    simp only [Descriptor.allGuards_shape, List.mem_append, List.mem_cons, or_imp, forall_and,
      forall_eq, ih]

end Rearranged

-- ════════════════════════════════════════════════════════════════════════
-- Decisions
-- ════════════════════════════════════════════════════════════════════════

namespace Eval

variable {α : Type} {p q : Prop}

/-- A question is answered, without a fault, by the truth of a proposition. -/
def Decides (y : Eval Fault Bool) (p : Prop) : Prop :=
  ∃ verdict, y.outcome = .ok verdict ∧ (verdict = true ↔ p)

theorem Decides.pure (verdict : Bool) : Decides (pure verdict) (verdict = true) :=
  ⟨verdict, rfl, Iff.rfl⟩

theorem Decides.congr {y : Eval Fault Bool} (h : Decides y p) (hpq : p ↔ q) : Decides y q := by
  obtain ⟨verdict, hverdict, hp⟩ := h
  exact ⟨verdict, hverdict, hp.trans hpq⟩

/-- The answer is a yes exactly if the proposition holds. -/
theorem Decides.outcome_eq_true_iff {y : Eval Fault Bool} (h : Decides y p) :
    y.outcome = .ok true ↔ p := by
  obtain ⟨verdict, hverdict, hp⟩ := h
  rw [hverdict, Except.ok.injEq, hp]

/-- The answer is a no exactly if the proposition does not hold. -/
theorem Decides.outcome_eq_false_iff {y : Eval Fault Bool} (h : Decides y p) :
    y.outcome = .ok false ↔ ¬ p := by
  obtain ⟨verdict, hverdict, hp⟩ := h
  rw [hverdict, Except.ok.injEq, ← hp, Bool.not_eq_true]

/-- Equivalent propositions have equal answers. -/
theorem Decides.outcome_eq {y z : Eval Fault Bool} (hy : Decides y p) (hz : Decides z q)
    (hpq : p ↔ q) : y.outcome = z.outcome := by
  obtain ⟨verdict, hverdict, hp⟩ := hy
  obtain ⟨verdict', hverdict', hq⟩ := hz
  rw [hverdict, hverdict', Bool.eq_iff_iff.mpr (hp.trans (hpq.trans hq.symm))]

/-- Asking about all of a list decides whether all of it holds: the order and the early exit do not
    show. -/
theorem Decides.allM {xs : List α} {g : α → Eval Fault Bool} {P : α → Prop}
    (h : ∀ x ∈ xs, Decides (g x) (P x)) : Decides (xs.allM g) (∀ x ∈ xs, P x) := by
  induction xs with
  | nil => exact (pure true).congr (by simp)
  | cons x xs ih =>
    obtain ⟨verdict, hverdict, hx⟩ := h x List.mem_cons_self
    obtain ⟨rest, hrest, hxs⟩ := ih fun y hy => h y (List.mem_cons_of_mem x hy)
    simp only [List.forall_mem_cons, ← hx, ← hxs]
    cases verdict with
    | true =>
      refine ⟨rest, ?_, by simp⟩
      rw [List.allM, outcome_bind, hverdict]
      exact hrest
    | false =>
      refine ⟨false, ?_, by simp⟩
      rw [List.allM, outcome_bind, hverdict]
      rfl

/-- Searching a list decides whether some of it holds. -/
theorem Decides.anyM {xs : List α} {g : α → Eval Fault Bool} {P : α → Prop}
    (h : ∀ x ∈ xs, Decides (g x) (P x)) : Decides (xs.anyM g) (∃ x ∈ xs, P x) := by
  induction xs with
  | nil => exact (pure false).congr (by simp)
  | cons x xs ih =>
    obtain ⟨verdict, hverdict, hx⟩ := h x List.mem_cons_self
    obtain ⟨rest, hrest, hxs⟩ := ih fun y hy => h y (List.mem_cons_of_mem x hy)
    simp only [List.mem_cons, exists_eq_or_imp, ← hx, ← hxs]
    cases verdict with
    | true =>
      refine ⟨true, ?_, by simp⟩
      rw [List.anyM, outcome_bind, hverdict]
      rfl
    | false =>
      refine ⟨rest, ?_, by simp⟩
      rw [List.anyM, outcome_bind, hverdict]
      exact hrest

end Eval

/-- What holds of every numbered item holds of every item. -/
theorem forall_mem_zipIdx {α : Type} {P : α → Prop} {xs : List α} :
    (∀ entry ∈ xs.zipIdx, P entry.1) ↔ ∀ x ∈ xs, P x := by
  have hfst : (∀ x ∈ xs.zipIdx.map Prod.fst, P x) ↔ ∀ entry ∈ xs.zipIdx, P entry.1 :=
    List.forall_mem_map
  rw [← hfst, List.zipIdx_map_fst]

/-- A guard has a verdict of its own on every value: wherever it is called within the limit, it
    comes to that verdict and not to a fault. Its failures about the value are a no. -/
def Guard.Answers (va : Validator) (g : Guard Descriptor) (verdict : Value → Bool) : Prop :=
  ∀ v path depth, depth ≤ va.maxDepth →
    Scope.verdictOf ((g.body v path).run (va.scopeAt path depth)).outcome = .ok (verdict v)

theorem Guard.answers_ofTest (va : Validator) (name : String) (test : Value → Bool) :
    (Guard.ofTest name test).Answers va test := fun _ _ _ _ => rfl

namespace Validator

variable {va : Validator} {verdict : Guard Descriptor → Value → Bool}

/-- One step of predicate mode decides the meaning if the level below does so for lower
    descriptors. -/
theorem decides_step {depth : Nat} (hdepth : depth ≤ va.maxDepth)
    (hbelow : ∀ v d path, d.AllGuards (fun g => g.Answers va (verdict g)) →
      d.height + (depth + 1) ≤ va.maxDepth →
      ((va.levelAt (depth + 1)).accepts v d path).Decides (Conforms verdict v d))
    (v : Value) (d : Descriptor) (path : Path)
    (hguards : d.AllGuards fun g => g.Answers va (verdict g))
    (hheight : d.height + depth ≤ va.maxDepth) :
    (Scope.acceptsHere (va.scopeAt path depth) v d).Decides
      (Conforms verdict v d) := by
  cases d with
  | primitive p => exact (Eval.Decides.pure _).congr conforms_primitive.symm
  | literal s =>
    cases v with
    | symbol t => exact (Eval.Decides.pure _).congr (by simp [conforms_literal])
    | _ => exact (Eval.Decides.pure false).congr (by simp [conforms_literal])
  | guard g =>
    -- the guard is called within the limit, where it has a verdict of its own
    have hanswer := Descriptor.allGuards_guard.mp hguards v path depth hdepth
    exact ⟨verdict g v, hanswer, conforms_guard.symm⟩
  | arrayOf item =>
    cases v with
    | array items =>
      have hitem := item.height_lt_arrayOf
      refine (Eval.Decides.allM fun entry _ => hbelow entry.1 item _
        (Descriptor.allGuards_arrayOf.mp hguards) (by omega)).congr ?_
      simp only [conforms_arrayOf, Value.array.injEq, exists_eq_left']
      exact forall_mem_zipIdx (P := fun x => Conforms verdict x item)
    | _ => exact (Eval.Decides.pure false).congr (by simp [conforms_arrayOf])
  | shape fields =>
    simp only [Scope.acceptsHere]
    cases hholds : v.holdsProperties with
    | false => exact (Eval.Decides.pure false).congr (by simp [conforms_shape, hholds])
    | true =>
      refine (Eval.Decides.allM (P := fun entry => ∃ property, v.get? entry.1 = some property ∧
        Conforms verdict property entry.2) fun entry hentry => ?_).congr
        (by simp [conforms_shape, hholds])
      have hfield := Descriptor.height_lt_of_mem_fields hentry
      cases hproperty : v.get? entry.1 with
      | none => exact (Eval.Decides.pure false).congr (by simp)
      | some property =>
        simp only [Option.some.injEq, exists_eq_left']
        exact hbelow property entry.2 _
          (Descriptor.allGuards_shape.mp hguards entry hentry) (by omega)
  | union members =>
    refine (Eval.Decides.anyM fun member hmember => hbelow v member path
      (Descriptor.allGuards_union.mp hguards member hmember) ?_).congr conforms_union.symm
    have := Descriptor.height_lt_of_mem_of .union hmember
    simp only [Combinator.of] at this
    omega
  | intersection members =>
    refine (Eval.Decides.allM fun member hmember => hbelow v member path
      (Descriptor.allGuards_intersection.mp hguards member hmember) ?_).congr
      conforms_intersection.symm
    have := Descriptor.height_lt_of_mem_of .intersection hmember
    simp only [Combinator.of] at this
    omega

/-- Within the limit predicate mode decides the meaning of a descriptor, at every path. -/
theorem decides_conforms (depth : Nat) (v : Value) (d : Descriptor) (path : Path)
    (hguards : d.AllGuards fun g => g.Answers va (verdict g))
    (hheight : d.height + depth ≤ va.maxDepth) :
    ((va.levelAt depth).accepts v d path).Decides (Conforms verdict v d) := by
  induction depth using va.depth_induction generalizing v d path with
  | beyond depth h => omega
  | within depth h ih =>
    rw [Eval.Decides, outcome_accepts_of_le h]
    exact decides_step h ih v d path hguards hheight

/-- Within the limit an assertion succeeds exactly on the values that conform. -/
theorem assert_eq_ok_iff_conforms (v : Value) (d : Descriptor)
    (hguards : d.AllGuards fun g => g.Answers va (verdict g)) (hheight : d.height ≤ va.maxDepth) :
    (va.assert v d).outcome = .ok () ↔ Conforms verdict v d := by
  have hsame := (va.level_agrees (va.maxDepth + 1 - 0) v d .root).outcomes
  exact hsame.accepted_iff.symm.trans
    (decides_conforms 0 v d .root hguards hheight).outcome_eq_true_iff

/-- Within the limit both modes decide the meaning of a descriptor, and descriptors that are
    rearranged into each other are decided alike. -/
theorem modes_decide_meaning (v : Value) (d : Descriptor)
    (hguards : d.AllGuards fun g => g.Answers va (verdict g)) (hheight : d.height ≤ va.maxDepth) :
    ((va.accepts v d).outcome = .ok true ↔ Conforms verdict v d) ∧
    ((va.accepts v d).outcome = .ok false ↔ ¬ Conforms verdict v d) ∧
    ((va.assert v d).outcome = .ok () ↔ Conforms verdict v d) ∧
    ∀ e, Rearranged d e → e.height ≤ va.maxDepth →
      (va.accepts v e).outcome = (va.accepts v d).outcome ∧
      ((va.assert v e).outcome = .ok () ↔ (va.assert v d).outcome = .ok ()) := by
  have hd := decides_conforms 0 v d .root hguards hheight
  refine ⟨hd.outcome_eq_true_iff, hd.outcome_eq_false_iff,
    assert_eq_ok_iff_conforms v d hguards hheight, ?_⟩
  intro e hrearranged heheight
  have heguards := hrearranged.allGuards_iff.mp hguards
  have hmeaning : Conforms verdict v e ↔ Conforms verdict v d :=
    (hrearranged.conforms_iff v).symm
  have he := decides_conforms 0 v e .root heguards heheight
  refine ⟨he.outcome_eq hd hmeaning, ?_⟩
  rw [assert_eq_ok_iff_conforms v e heguards heheight,
    assert_eq_ok_iff_conforms v d hguards hheight, hmeaning]

/-- Labels that are texts or nothing at all. -/
def labels : Descriptor :=
  .shape ⟨[(.string "labels",
    .arrayOf (.union [.primitive .string, .guard (.ofTest "nothing" Value.isNullish)]))]⟩

/-- Under one key there is an array, and its items are texts or nothing at all. -/
theorem conforms_labels {items : List Value} :
    Conforms (fun _ => Value.isNullish) (.object ⟨[(.string "labels", .array items)]⟩) labels ↔
      ∀ x ∈ items, x.kind = .string ∨ x.isNullish = true := by
  simp [labels, conforms_shape, conforms_arrayOf, conforms_union, conforms_primitive,
    conforms_guard, Value.holdsProperties, Value.get?, Entries.property?, Entries.get?,
    Primitive.test]

/-- Three levels suffice to accept a text next to nothing and to refuse a truth value. -/
theorem modes_decide_labels :
    labels.AllGuards (fun g => g.Answers ⟨3, fun _ => none⟩ Value.isNullish) ∧
    labels.height ≤ 3 ∧
    (accepts ⟨3, fun _ => none⟩
      (.object ⟨[(.string "labels", .array [.string "a", .null])]⟩) labels).outcome = .ok true ∧
    (accepts ⟨3, fun _ => none⟩
      (.object ⟨[(.string "labels", .array [.string "a", .bool true])]⟩) labels).outcome =
        .ok false := by
  have hguards : labels.AllGuards
      (fun g => g.Answers ⟨3, fun _ => none⟩ ((fun _ => Value.isNullish) g)) := by
    simp [labels, Guard.answers_ofTest]
  have hheight : labels.height ≤ 3 := by decide
  refine ⟨hguards, hheight, ?_, ?_⟩
  · apply (modes_decide_meaning _ labels hguards hheight).1.mpr
    rw [conforms_labels]
    decide
  · apply (modes_decide_meaning _ labels hguards hheight).2.1.mpr
    rw [conforms_labels]
    decide

end Validator

end Conform
