import Mathlib.Data.List.Forall2
import Conform.Proofs.Descriptor.Structure
import Conform.Proofs.Evaluation.Laws

/-!
# One step of assert mode

A step of assert mode writes reports, calls guards, and descends in sequences and loops. So a
relation between evaluations that reports satisfy and that sequences keep holds of two steps on the
same value as soon as it holds of their guards and of their descents. A property of evaluations is
a relation that looks at one side alone.

## Main definitions

- `Eval.Compositional` — a relation that reports satisfy and that sequences keep
- `Descent` — what a step goes down to: an item, a field or a member

## Main results

- `Scope.related_of_descents` — one step of assert mode over two levels below
- `Scope.related_here` — the same if the levels are related on every descriptor with such guards
-/

namespace Conform

namespace Eval

/-- A relation between evaluations that reports satisfy and that sequences keep. -/
structure Compositional (R : (α : Type) → Eval Failure α → Eval Failure α → Prop) : Prop where
  pure {α : Type} (a : α) : R α (Pure.pure a) (Pure.pure a)
  rejectType {α : Type} (path : Path) (d : Descriptor) (v : Value) :
    R α (Eval.rejectType path d v) (Eval.rejectType path d v)
  rejectAbsent {α : Type} (path : Path) (d : Descriptor) :
    R α (Eval.rejectAbsent path d) (Eval.rejectAbsent path d)
  bind {α β : Type} {x x' : Eval Failure α} {f f' : α → Eval Failure β} (hx : R α x x')
    (hf : ∀ a, R β (f a) (f' a)) : R β (x >>= f) (x' >>= f')

namespace Compositional

variable {R : (α : Type) → Eval Failure α → Eval Failure α → Prop} {α β : Type}

theorem expectType (hR : Compositional R) (verdict : Bool) (path : Path) (d : Descriptor)
    (v : Value) :
    R Unit (Eval.expectType verdict path d v) (Eval.expectType verdict path d v) := by
  cases verdict with
  | true => exact hR.pure ()
  | false => exact hR.rejectType path d v

section Loops

variable {xs : List α} {ys : List β}

/-- Loops over lists of one length are related if their rounds are, one by one. -/
theorem forM_forall₂ (hR : Compositional R) {f : α → Eval Failure PUnit}
    {g : β → Eval Failure PUnit}
    (h : List.Forall₂ (fun x y => R PUnit (f x) (g y)) xs ys) :
    R PUnit (xs.forM f) (ys.forM g) := by
  induction h with
  | nil => exact hR.pure PUnit.unit
  | cons hfirst _ ih => exact hR.bind hfirst fun _ => ih

theorem anyM_forall₂ (hR : Compositional R) {f : α → Eval Failure Bool} {g : β → Eval Failure Bool}
    (h : List.Forall₂ (fun x y => R Bool (f x) (g y)) xs ys) : R Bool (xs.anyM f) (ys.anyM g) := by
  induction h with
  | nil => exact hR.pure false
  | cons hfirst _ ih =>
    refine hR.bind hfirst fun verdict => ?_
    cases verdict with
    | true => exact hR.pure true
    | false => exact ih

theorem allM_forall₂ (hR : Compositional R) {f : α → Eval Failure Bool} {g : β → Eval Failure Bool}
    (h : List.Forall₂ (fun x y => R Bool (f x) (g y)) xs ys) : R Bool (xs.allM f) (ys.allM g) := by
  induction h with
  | nil => exact hR.pure true
  | cons hfirst _ ih =>
    refine hR.bind hfirst fun verdict => ?_
    cases verdict with
    | true => exact ih
    | false => exact hR.pure false

theorem forM (hR : Compositional R) {f f' : α → Eval Failure PUnit}
    (h : ∀ x ∈ xs, R PUnit (f x) (f' x)) : R PUnit (xs.forM f) (xs.forM f') :=
  hR.forM_forall₂ (List.forall₂_same.mpr h)

theorem anyM (hR : Compositional R) {f f' : α → Eval Failure Bool}
    (h : ∀ x ∈ xs, R Bool (f x) (f' x)) : R Bool (xs.anyM f) (xs.anyM f') :=
  hR.anyM_forall₂ (List.forall₂_same.mpr h)

theorem allM (hR : Compositional R) {f f' : α → Eval Failure Bool}
    (h : ∀ x ∈ xs, R Bool (f x) (f' x)) : R Bool (xs.allM f) (xs.allM f') :=
  hR.allM_forall₂ (List.forall₂_same.mpr h)

end Loops

end Compositional

end Eval

/-- A step on a value and a descriptor goes down to an item, to a field or to a member: the key
    that it adds to the path, and the value and the descriptor there. -/
inductive Descent : Value → Descriptor → Option PropertyKey → Value → Descriptor → Prop
  | item {items : List Value} {item : Descriptor} {entry : Value × Nat}
      (h : entry ∈ items.zipIdx) :
      Descent (.array items) (.arrayOf item) (some (.index entry.2)) entry.1 item
  | field {v property : Value} {fields : Entries Descriptor} {entry : PropertyKey × Descriptor}
      (h : entry ∈ fields.toList) (hproperty : v.get? entry.1 = some property) :
      Descent v (.shape fields) (some entry.1) property entry.2
  | member (c : Combinator) {v : Value} {members : List Descriptor} {member : Descriptor}
      (h : member ∈ members) : Descent v (c.of members) none v member

/-- What a step goes down to has no other guards. -/
theorem Descent.allGuards {v x : Value} {d e : Descriptor} {key : Option PropertyKey}
    {P : Guard Descriptor → Prop} (h : Descent v d key x e) (hguards : d.AllGuards P) :
    e.AllGuards P := by
  cases h with
  | item _ => exact Descriptor.allGuards_arrayOf.mp hguards
  | field hmem _ => exact Descriptor.allGuards_shape.mp hguards _ hmem
  | member c hmem => exact (Descriptor.allGuards_of c).mp hguards _ hmem

section Related

variable {R : (α : Type) → Eval Failure α → Eval Failure α → Prop} {scope : Scope}
  {v : Value} {d : Descriptor}

/-- Two steps of assert mode are related if their guards and their descents are. -/
theorem Scope.related_of_descents (hR : Eval.Compositional R) (below' : Level)
    (hassert : ∀ key x e, Descent v d key x e →
      R Unit (scope.below.assert x e (scope.place key)) (below'.assert x e (scope.place key)))
    (haccepts : ∀ x e, Descent v d none x e →
      R Bool ((scope.below.accepts x e scope.path).mapError .fault)
        ((below'.accepts x e scope.path).mapError .fault))
    (hcall : ∀ g, d = .guard g →
      R Bool (g.call scope v) (g.call { scope with below := below' } v)) :
    R Unit (scope.assertHere v d) ({ scope with below := below' }.assertHere v d) := by
  cases d with
  | primitive p => exact hR.expectType (p.test v) scope.path _ v
  | literal s =>
    cases v with
    | symbol t => exact hR.expectType (t == s) scope.path _ _
    | _ => exact hR.rejectType scope.path _ _
  | guard g => exact hR.bind (hcall g rfl) fun verdict => hR.expectType verdict scope.path _ v
  | arrayOf item =>
    cases v with
    | array items => exact hR.forM fun entry hentry => hassert _ entry.1 item (.item hentry)
    | _ => exact hR.rejectType scope.path _ _
  | union members =>
    have hany := hR.anyM fun member hmember => haccepts v member (.member .union hmember)
    exact hR.bind hany fun verdict => hR.expectType verdict scope.path _ v
  | intersection members =>
    have hall := hR.allM fun member hmember => haccepts v member (.member .intersection hmember)
    exact hR.bind hall fun verdict => hR.expectType verdict scope.path _ v
  | shape fields =>
    simp only [assertHere]
    cases v.holdsProperties with
    | false => exact hR.rejectType scope.path _ v
    | true =>
      refine hR.forM fun entry hentry => ?_
      cases hproperty : v.get? entry.1 with
      | none => exact hR.rejectAbsent _ entry.2
      | some property => exact hassert _ property entry.2 (.field hentry hproperty)

/-- Two steps of assert mode are related if their guards and the levels below them are. Descents
    stay at the path of the step or go one key further on. -/
theorem Scope.related_here (hR : Eval.Compositional R) {P : Guard Descriptor → Prop}
    (below' : Level)
    (hassert : ∀ v d key, d.AllGuards P →
      R Unit (scope.below.assert v d (scope.place key)) (below'.assert v d (scope.place key)))
    (haccepts : ∀ v d, d.AllGuards P →
      R Bool ((scope.below.accepts v d scope.path).mapError .fault)
        ((below'.accepts v d scope.path).mapError .fault))
    (hcall : ∀ g v, P g → R Bool (g.call scope v) (g.call { scope with below := below' } v))
    (v : Value) {d : Descriptor} (hguards : d.AllGuards P) :
    R Unit (scope.assertHere v d) ({ scope with below := below' }.assertHere v d) := by
  refine related_of_descents hR below' ?_ ?_ ?_
  · intro key x e hdescent
    exact hassert x e key (hdescent.allGuards hguards)
  · intro x e hdescent
    exact haccepts x e (hdescent.allGuards hguards)
  · rintro g rfl
    exact hcall g v (Descriptor.allGuards_guard.mp hguards)

end Related

end Conform
