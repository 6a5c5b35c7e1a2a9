import Mathlib.Data.List.Forall2
import Mathlib.Data.Option.Basic
import Conform.Proofs.Descriptor.Structure
import Conform.Proofs.Evaluation.Agreement

/-!
# Two runs side by side

Two evaluations without guards, of values and descriptors that are alike, end alike. What counts as
alike is left open: a `Likeness` relates the values, keys, symbols, paths and failures of one run
to those of another, and its laws say what the evaluation has to be able to see of them. One step
over two levels that end alike ends alike, and so does every level.

## Main definitions

- `SameEnd` — the same result, or errors that are alike
- `Descriptor.SameForm` — descriptors of one form, with parts that are related
- `Likeness` — what two runs have in common

## Main results

- `Likeness.sameEnd_here` — one step of assert mode
- `Likeness.sameEnd_level` — assert mode with any number of levels to go
-/

namespace Conform

/-- The same result, or errors that are alike. -/
inductive SameEnd {ε α : Type} (E : ε → ε → Prop) : Except ε α → Except ε α → Prop
  | ok (a : α) : SameEnd E (.ok a) (.ok a)
  | error {e e' : ε} (h : E e e') : SameEnd E (.error e) (.error e')

namespace SameEnd

variable {ε α β γ δ : Type} {E : ε → ε → Prop}

theorem refl (hE : ∀ e, E e e) (x : Except ε α) : SameEnd E x x := by
  cases x with
  | ok a => exact .ok a
  | error e => exact .error (hE e)

theorem mono {E' : ε → ε → Prop} {x y : Except ε α} (h : SameEnd E x y)
    (hE : ∀ e e', E e e' → E' e e') : SameEnd E' x y := by
  cases h with
  | ok a => exact .ok a
  | error h => exact .error (hE _ _ h)

theorem eq {x y : Except ε α} (h : SameEnd Eq x y) : x = y := by
  cases h with
  | ok a => rfl
  | error h => rw [h]

/-- Errors that are alike by a renaming make an outcome the renamed other one. -/
theorem eq_mapError {g : ε → ε} {x y : Except ε α} (h : SameEnd (fun e e' => e = g e') x y) :
    x = y.mapError g := by
  cases h with
  | ok a => rfl
  | error h => rw [h]; rfl

theorem bind {x x' : Eval ε α} {f f' : α → Eval ε β} (hx : SameEnd E x.outcome x'.outcome)
    (hf : ∀ a, SameEnd E (f a).outcome (f' a).outcome) :
    SameEnd E (x >>= f).outcome (x' >>= f').outcome := by
  rw [Eval.outcome_bind, Eval.outcome_bind]
  generalize x.outcome = outcome at hx
  generalize x'.outcome = outcome' at hx
  cases hx with
  | ok a => exact hf a
  | error h => exact .error h

section Loops

variable {R : γ → δ → Prop} {xs : List γ} {ys : List δ}

theorem forM {f : γ → Eval ε PUnit} {g : δ → Eval ε PUnit} (h : List.Forall₂ R xs ys)
    (hbody : ∀ x y, R x y → SameEnd E (f x).outcome (g y).outcome) :
    SameEnd E (xs.forM f).outcome (ys.forM g).outcome := by
  induction h with
  | nil => exact .ok _
  | cons hxy _ ih => exact bind (hbody _ _ hxy) fun _ => ih

theorem anyM {f : γ → Eval ε Bool} {g : δ → Eval ε Bool} (h : List.Forall₂ R xs ys)
    (hbody : ∀ x y, R x y → SameEnd E (f x).outcome (g y).outcome) :
    SameEnd E (xs.anyM f).outcome (ys.anyM g).outcome := by
  induction h with
  | nil => exact .ok false
  | cons hxy _ ih =>
    refine bind (hbody _ _ hxy) fun verdict => ?_
    cases verdict with
    | true => exact .ok true
    | false => exact ih

theorem allM {f : γ → Eval ε Bool} {g : δ → Eval ε Bool} (h : List.Forall₂ R xs ys)
    (hbody : ∀ x y, R x y → SameEnd E (f x).outcome (g y).outcome) :
    SameEnd E (xs.allM f).outcome (ys.allM g).outcome := by
  induction h with
  | nil => exact .ok true
  | cons hxy _ ih =>
    refine bind (hbody _ _ hxy) fun verdict => ?_
    cases verdict with
    | true => exact ih
    | false => exact .ok false

end Loops

/-- Where assertions end alike, questions end in the same verdict or in faults that are alike, if no
    fault is like a verdict. -/
theorem fault {E : Failure → Failure → Prop} {x x' : Eval Failure Unit} {y y' : Eval Fault Bool}
    (h : x.Agree y) (h' : x'.Agree y') (hE : ∀ {f g}, E f g → f.isVerdict = g.isVerdict)
    (hx : SameEnd E x.outcome x'.outcome) :
    SameEnd E (y.mapError Failure.fault).outcome (y'.mapError Failure.fault).outcome := by
  simp only [Eval.mapError, h.outcome_eq, h'.outcome_eq]
  generalize x.outcome = outcome at hx
  generalize x'.outcome = outcome' at hx
  cases hx with
  | ok => exact .ok true
  | @error f g hfailure =>
    have hverdict := hE hfailure
    cases f with
    | fault a =>
      cases g with
      | fault b => exact .error hfailure
      | _ => cases hverdict
    | _ =>
      cases g with
      | fault b => cases hverdict
      | _ => exact .ok false

/-- Questions end alike if they do with their faults taken for failures. -/
theorem of_mapError_fault {E : Failure → Failure → Prop} {y y' : Eval Fault Bool}
    (h : SameEnd E (y.mapError Failure.fault).outcome (y'.mapError Failure.fault).outcome) :
    SameEnd (fun a b => E (.fault a) (.fault b)) y.outcome y'.outcome := by
  simp only [Eval.mapError] at h
  generalize y.outcome = outcome at h ⊢
  generalize y'.outcome = outcome' at h ⊢
  cases outcome with
  | ok verdict =>
    cases outcome' with
    | ok verdict' =>
      cases h
      exact .ok verdict
    | error b => cases h
  | error a =>
    cases outcome' with
    | ok verdict' => cases h
    | error b =>
      cases h with
      | error h => exact .error h

end SameEnd

theorem forall₂_zipIdx {α β : Type} {R : α → β → Prop} {xs : List α} {ys : List β}
    (h : List.Forall₂ R xs ys) (start : Nat) :
    List.Forall₂ (fun a b => R a.1 b.1 ∧ a.2 = b.2) (xs.zipIdx start) (ys.zipIdx start) := by
  induction h generalizing start with
  | nil => exact .nil
  | cons hxy _ ih => exact .cons ⟨hxy, rfl⟩ (ih (start + 1))

-- ════════════════════════════════════════════════════════════════════════
-- What an evaluation sees of a value
-- ════════════════════════════════════════════════════════════════════════

theorem Primitive.test_congr {v w : Value} (h : v.kind = w.kind) (p : Primitive) :
    p.test v = p.test w := by
  have hnullish (x : Value) : x.isNullish = (x.kind == .null || x.kind == .undefined) := by
    cases x <;> rfl
  cases p <;> simp only [test, hnullish, h]

theorem Value.holdsProperties_congr {v w : Value} (h : v.kind = w.kind) :
    v.holdsProperties = w.holdsProperties := by
  have hkind (x : Value) :
      x.holdsProperties = (x.kind == .object || x.kind == .array || x.kind == .function) := by
    cases x <;> rfl
  rw [hkind, hkind, h]

namespace Scope

theorem assertHere_literal (scope : Scope) (v : Value) (s : Symbol) :
    scope.assertHere v (.literal s) =
      Eval.expectType (v.asSymbol? == some s) scope.path (.literal s) v := by
  cases v <;> rfl

theorem assertHere_arrayOf (scope : Scope) (v : Value) (item : Descriptor) :
    scope.assertHere v (.arrayOf item) =
      match v.asArray? with
      | some items =>
        items.zipIdx.forM fun (x, i) => scope.below.assert x item (scope.path.child (.index i))
      | none => Eval.rejectType scope.path (.arrayOf item) v := by
  cases v <;> rfl

end Scope

-- ════════════════════════════════════════════════════════════════════════
-- Likeness
-- ════════════════════════════════════════════════════════════════════════

/-- Two descriptors are of one form, and no guards: their symbols, their keys and their parts are
    related one by one. -/
inductive Descriptor.SameForm (S : Symbol → Symbol → Prop) (K : PropertyKey → PropertyKey → Prop)
    (D : Descriptor → Descriptor → Prop) : Descriptor → Descriptor → Prop
  | primitive (p : Primitive) : SameForm S K D (.primitive p) (.primitive p)
  | literal {s t : Symbol} (h : S s t) : SameForm S K D (.literal s) (.literal t)
  | arrayOf {item item' : Descriptor} (h : D item item') :
      SameForm S K D (.arrayOf item) (.arrayOf item')
  | shape {fields fields' : Entries Descriptor}
      (h : List.Forall₂ (fun entry entry' => K entry.1 entry'.1 ∧ D entry.2 entry'.2)
        fields.toList fields'.toList) :
      SameForm S K D (.shape fields) (.shape fields')
  | union {members members' : List Descriptor} (h : List.Forall₂ D members members') :
      SameForm S K D (.union members) (.union members')
  | intersection {members members' : List Descriptor} (h : List.Forall₂ D members members') :
      SameForm S K D (.intersection members) (.intersection members')

/-- What two runs, each with its own limit, have in common. -/
structure Likeness (va va' : Validator) where
  symbol : Symbol → Symbol → Prop
  key : PropertyKey → PropertyKey → Prop
  value : Value → Value → Prop
  descriptor : Descriptor → Descriptor → Prop
  path : Path → Path → Prop
  failure : Failure → Failure → Prop
  /-- Values that are alike are of one kind. -/
  kind {v w : Value} : value v w → v.kind = w.kind
  /-- Literals tell as much about one as about the other. -/
  asSymbol? {v w : Value} {s t : Symbol} : value v w → symbol s t →
    (v.asSymbol? = some s ↔ w.asSymbol? = some t)
  /-- Their items are alike one by one. -/
  asArray? {v w : Value} : value v w →
    Option.Rel (List.Forall₂ value) v.asArray? w.asArray?
  /-- So is what access through keys that are alike finds. -/
  get? {v w : Value} {k l : PropertyKey} : value v w → key k l →
    Option.Rel value (v.get? k) (w.get? l)
  /-- Descriptors that are alike have one form and parts that are alike. -/
  form {d e : Descriptor} : descriptor d e → d.SameForm symbol key descriptor e
  index (i : Nat) : key (.index i) (.index i)
  child {p q : Path} {k l : PropertyKey} : path p q → key k l → path (p.child k) (q.child l)
  wrongType {p q : Path} {d e : Descriptor} {v w : Value} : path p q → descriptor d e →
    value v w → failure (.wrongType p d v) (.wrongType q e w)
  absent {p q : Path} {d e : Descriptor} : path p q → descriptor d e →
    failure (.absent p d) (.absent q e)
  depthExceeded {p q : Path} : path p q →
    failure (.fault (.depthExceeded p va.maxDepth)) (.fault (.depthExceeded q va'.maxDepth))
  /-- A fault is never like a verdict. -/
  isVerdict {f g : Failure} : failure f g → f.isVerdict = g.isVerdict

/-- Without guards a descriptor has the form of itself. -/
theorem Descriptor.GuardFree.sameForm {d : Descriptor} (h : d.GuardFree) :
    d.SameForm Eq Eq (fun e e' => e = e' ∧ e.GuardFree) d := by
  have hparts {members : List Descriptor} (h : ∀ member ∈ members, member.GuardFree) :
      List.Forall₂ (fun e e' => e = e' ∧ e.GuardFree) members members :=
    List.forall₂_same.mpr fun member hmember => ⟨rfl, h member hmember⟩
  cases h with
  | primitive p => exact .primitive p
  | literal s => exact .literal rfl
  | guard h => exact h.elim
  | arrayOf h => exact .arrayOf ⟨rfl, h⟩
  | shape h => exact .shape (List.forall₂_same.mpr fun entry hentry => ⟨rfl, rfl, h entry hentry⟩)
  | union h => exact .union (hparts h)
  | intersection h => exact .intersection (hparts h)

/-- So have those that are the same. -/
theorem Descriptor.sameForm_of_eq {d e : Descriptor} (h : d = e ∧ d.GuardFree) :
    d.SameForm Eq Eq (fun e e' => e = e' ∧ e.GuardFree) e := by
  obtain ⟨rfl, hfree⟩ := h
  exact hfree.sameForm

/-- Where like keys are equal keys, an index is like itself. -/
theorem PropertyKey.index_eq_self (i : Nat) : PropertyKey.index i = .index i := rfl

namespace Likeness

variable {va va' : Validator} (L : Likeness va va') {scope scope' : Scope} {v w : Value}
  {d e : Descriptor} {p q : Path}

/-- Two assertions on values, descriptors and paths that are alike end alike. -/
def Below (level level' : Level) : Prop :=
  ∀ {v w d e p q}, L.value v w → L.descriptor d e → L.path p q →
    SameEnd L.failure (level.assert v d p).outcome (level'.assert w e q).outcome

theorem sameEnd_expectType {verdict verdict' : Bool} (h : verdict = verdict') (hpath : L.path p q)
    (hd : L.descriptor d e) (hv : L.value v w) :
    SameEnd L.failure (Eval.expectType verdict p d v).outcome
      (Eval.expectType verdict' q e w).outcome := by
  subst h
  cases verdict with
  | true => exact .ok ()
  | false => exact .error (L.wrongType hpath hd hv)

theorem sameEnd_fault {x x' : Eval Failure Unit} {y y' : Eval Fault Bool} (h : x.Agree y)
    (h' : x'.Agree y') (hx : SameEnd L.failure x.outcome x'.outcome) :
    SameEnd L.failure (y.mapError Failure.fault).outcome (y'.mapError Failure.fault).outcome :=
  SameEnd.fault h h' L.isVerdict hx

/-- One step of assert mode, over levels that end alike, ends alike. -/
theorem sameEnd_here (hbelow : L.Below scope.below scope'.below) (hagree : scope.below.Agrees)
    (hagree' : scope'.below.Agrees) (hpath : L.path scope.path scope'.path) (hv : L.value v w)
    (hd : L.descriptor d e) :
    SameEnd L.failure (scope.assertHere v d).outcome (scope'.assertHere w e).outcome := by
  have hreject : SameEnd L.failure (Eval.rejectType (α := Unit) scope.path d v).outcome
      (Eval.rejectType (α := Unit) scope'.path e w).outcome := .error (L.wrongType hpath hd hv)
  have hmember {member member' : Descriptor} (hmember : L.descriptor member member') :
      SameEnd L.failure ((scope.below.accepts v member scope.path).mapError Failure.fault).outcome
        ((scope'.below.accepts w member' scope'.path).mapError Failure.fault).outcome :=
    L.sameEnd_fault (hagree v member _) (hagree' w member' _) (hbelow hv hmember hpath)
  cases L.form hd with
  | primitive p => exact L.sameEnd_expectType (p.test_congr (L.kind hv)) hpath hd hv
  | literal hs =>
    rw [Scope.assertHere_literal, Scope.assertHere_literal]
    refine L.sameEnd_expectType ?_ hpath hd hv
    rw [Bool.eq_iff_iff, beq_iff_eq, beq_iff_eq]
    exact L.asSymbol? hv hs
  | arrayOf hitem =>
    rw [Scope.assertHere_arrayOf, Scope.assertHere_arrayOf]
    have hitems := L.asArray? hv
    generalize v.asArray? = xs at hitems
    generalize w.asArray? = ys at hitems
    cases hitems with
    | none => exact hreject
    | some hitems =>
      refine SameEnd.forM (forall₂_zipIdx hitems 0) ?_
      rintro ⟨x, i⟩ ⟨y, j⟩ ⟨hx, rfl⟩
      exact hbelow hx hitem (L.child hpath (L.index i))
  | shape hfields =>
    simp only [Scope.assertHere, ← Value.holdsProperties_congr (L.kind hv)]
    cases v.holdsProperties with
    | false => exact hreject
    | true =>
      refine SameEnd.forM hfields ?_
      rintro ⟨key, field⟩ ⟨key', field'⟩ ⟨hkey, hfield⟩
      have hproperty := L.get? hv hkey
      dsimp only
      generalize v.get? key = x at hproperty
      generalize w.get? key' = y at hproperty
      cases hproperty with
      | none => exact .error (L.absent (L.child hpath hkey) hfield)
      | some hx => exact hbelow hx hfield (L.child hpath hkey)
  | union hmembers =>
    have hany := SameEnd.anyM hmembers fun _ _ h => hmember h
    exact hany.bind fun verdict => L.sameEnd_expectType rfl hpath hd hv
  | intersection hmembers =>
    have hall := SameEnd.allM hmembers fun _ _ h => hmember h
    exact hall.bind fun verdict => L.sameEnd_expectType rfl hpath hd hv

theorem sameEnd_level (left : Nat) : L.Below (va.level left) (va'.level left) := by
  induction left with
  | zero => exact fun _ _ hpath => .error (L.depthExceeded hpath)
  | succ left ih =>
    intro v w d e p q hv hd hpath
    change SameEnd L.failure
      (Scope.assertHere ⟨va.known, va.level left, p, va.maxDepth - left⟩ v d).outcome
      (Scope.assertHere ⟨va'.known, va'.level left, q, va'.maxDepth - left⟩ w e).outcome
    exact L.sameEnd_here ih (va.level_agrees left) (va'.level_agrees left) hpath hv hd

end Likeness

end Conform
