import Conform.Proofs.Evaluation.SideBySide
import Conform.Proofs.Renaming

/-!
# The identity of symbols

Without guards an evaluation sees of a symbol only which one it is. With other symbols in place of
those in the value and in the descriptor it gives the same answer and the same failure, at the
place with the renamed keys; how the symbols are described shows in the texts alone.

## Main definitions

- `Likeness.renamed` — a run beside the one on the renamed value and descriptor

## Main results

- `Validator.only_identity_of_symbols_matters` — both modes on a renamed value and descriptor
-/

namespace Conform

variable {s : Symbol → Symbol} {S : Set Symbol}

/-- Descriptors without guards have the form of the renamed ones. -/
theorem Descriptor.GuardFree.sameForm_renamed {d : Descriptor} (hfree : d.GuardFree)
    (hd : d.symbols ⊆ S) :
    d.SameForm (fun a b => a ∈ S ∧ b = s a) (fun k l => k.symbols ⊆ S ∧ l = k.renamed s)
      (fun d e => d.GuardFree ∧ d.symbols ⊆ S ∧ e = d.renamed s) (d.renamed s) := by
  have hmembers {members : List Descriptor} (hfree : ∀ member ∈ members, member.GuardFree)
      (hd : symbolsOfMembers members ⊆ S) :
      List.Forall₂ (fun d e => d.GuardFree ∧ d.symbols ⊆ S ∧ e = d.renamed s) members
        (renamedMembers s members) := by
    induction members with
    | nil => exact .nil
    | cons d ds ih =>
      obtain ⟨hfirst, hrest⟩ := List.forall_mem_cons.mp hfree
      obtain ⟨hsymbols, hothers⟩ := Set.union_subset_iff.mp hd
      exact .cons ⟨hfirst, hsymbols, rfl⟩ (ih hrest hothers)
  cases hfree with
  | primitive p => exact .primitive p
  | literal a => exact .literal ⟨hd rfl, rfl⟩
  | guard h => exact h.elim
  | arrayOf hitem => exact .arrayOf ⟨hitem, hd, rfl⟩
  | @shape fields hfields =>
    obtain ⟨fields⟩ := fields
    refine .shape ?_
    change symbolsOfFields fields ⊆ S at hd
    change List.Forall₂ _ fields (renamedFields s fields)
    induction fields with
    | nil => exact .nil
    | cons field fields ih =>
      obtain ⟨hfirst, hrest⟩ := List.forall_mem_cons.mp hfields
      obtain ⟨hsymbols, hothers⟩ := Set.union_subset_iff.mp hd
      obtain ⟨hkey, hfield⟩ := Set.union_subset_iff.mp hsymbols
      exact .cons ⟨⟨hkey, rfl⟩, hfirst, hfield, rfl⟩ (ih hrest hothers)
  | union hfree => exact .union (hmembers hfree hd)
  | intersection hfree => exact .intersection (hmembers hfree hd)

/-- A run beside the one on the renamed value and descriptor, at the renamed place. -/
def Likeness.renamed (va : Validator) (hinj : S.InjOn s) : Likeness va va where
  symbol a b := a ∈ S ∧ b = s a
  key k l := k.symbols ⊆ S ∧ l = k.renamed s
  value v w := v.symbols ⊆ S ∧ w = v.renamed s
  descriptor d e := d.GuardFree ∧ d.symbols ⊆ S ∧ e = d.renamed s
  path p q := q = p.renamed s
  failure := Failure.RenamedBy s
  kind := by
    rintro v _ ⟨-, rfl⟩
    exact v.kind_renamed.symm
  asSymbol? := by
    rintro v _ a _ ⟨hv, rfl⟩ ⟨ha, rfl⟩
    cases v with
    | symbol b =>
      simp only [Value.renamed, Value.asSymbol?, Option.some.injEq]
      exact (hinj.eq_iff (hv rfl) ha).symm
    | _ => exact iff_of_false nofun nofun
  asArray? := by
    rintro v _ ⟨hv, rfl⟩
    cases v with
    | array items =>
      refine .some ?_
      rw [Value.renamedItems_eq_map, List.forall₂_map_right_iff]
      exact List.forall₂_same.mpr fun x hx => ⟨Value.symbolsOfItems_subset.mp hv x hx, rfl⟩
    | _ => exact .none
  get? := by
    rintro v _ k _ ⟨hv, rfl⟩ ⟨hk, rfl⟩
    rw [Value.get?_renamed hinj hv hk]
    cases hx : v.get? k with
    | none => exact .none
    | some x => exact .some ⟨Value.symbols_subset_of_get? hv hx, rfl⟩
  form := by
    rintro d _ ⟨hfree, hd, rfl⟩
    exact hfree.sameForm_renamed hd
  index i := ⟨Set.empty_subset S, rfl⟩
  child := by
    rintro p _ k _ rfl ⟨-, rfl⟩
    exact (p.renamed_child k).symm
  wrongType := by
    rintro p _ d _ v _ rfl ⟨-, -, rfl⟩ ⟨-, rfl⟩
    exact .wrongType p d v
  absent := by
    rintro p _ d _ rfl ⟨-, -, rfl⟩
    exact .absent p d
  depthExceeded := by
    rintro p _ rfl
    exact .fault (.depthExceeded p va.maxDepth)
  isVerdict := by
    rintro f g h
    cases h <;> rfl

/-- Questions whose faults, taken for failures, are renamed have the same answer, or the renamed
    fault. -/
theorem SameEnd.eq_mapError_renamed {y y' : Eval Fault Bool}
    (h : SameEnd (Failure.RenamedBy s) (y.mapError Failure.fault).outcome
      (y'.mapError Failure.fault).outcome) :
    y'.outcome = y.outcome.mapError (Fault.renamed s) := by
  have hfaults := h.of_mapError_fault
  generalize y.outcome = outcome at hfaults
  generalize y'.outcome = outcome' at hfaults
  cases hfaults with
  | ok verdict => rfl
  | error h =>
    cases h
    rfl

namespace Validator

/-- With other symbols in place of those that occur, different ones for different ones, predicate
    mode gives the same answer and assert mode the same failure at the renamed place, under every
    limit, and values are as equal as before. Two symbols are never taken for each other, however
    they are described: not by a literal, not as keys and not by equality. -/
theorem only_identity_of_symbols_matters (va : Validator) {v w : Value} {d : Descriptor}
    (hinj : (v.symbols ∪ w.symbols ∪ d.symbols).InjOn s) (hfree : d.GuardFree) :
    (va.accepts (v.renamed s) (d.renamed s)).outcome =
      (va.accepts v d).outcome.mapError (.renamed s) ∧
    SameEnd (Failure.RenamedBy s) (va.assert v d).outcome
      (va.assert (v.renamed s) (d.renamed s)).outcome ∧
    (v.renamed s == w.renamed s) = (v == w) ∧
    ∀ a b : Symbol, a ≠ b →
      (va.accepts (.symbol a) (.literal b)).outcome = .ok false ∧
      (∀ (es : Entries Value) (x : Value),
        (es.insert (.symbol a) x).property? (.symbol b) = es.property? (.symbol b)) ∧
      (Value.symbol a == .symbol b) = false := by
  have hv : v.symbols ⊆ v.symbols ∪ w.symbols ∪ d.symbols :=
    Set.subset_union_left.trans Set.subset_union_left
  have hw : w.symbols ⊆ v.symbols ∪ w.symbols ∪ d.symbols :=
    Set.subset_union_right.trans Set.subset_union_left
  have hd : d.symbols ⊆ v.symbols ∪ w.symbols ∪ d.symbols := Set.subset_union_right
  have hassert : SameEnd (Failure.RenamedBy s) (va.assert v d).outcome
      (va.assert (v.renamed s) (d.renamed s)).outcome :=
    (Likeness.renamed va hinj).sameEnd_level (va.maxDepth + 1 - 0) ⟨hv, rfl⟩ ⟨hfree, hd, rfl⟩
      (rfl : Path.root = Path.root.renamed s)
  have hfault := (Likeness.renamed va hinj).sameEnd_fault (va.agree_whole v d)
    (va.agree_whole (v.renamed s) (d.renamed s)) hassert
  refine ⟨hfault.eq_mapError_renamed, hassert, Value.eq_renamed hinj v w hv hw, ?_⟩
  intro a b hne
  have hliteral : (va.accepts (.symbol a) (.literal b)).outcome = .ok (a == b) := rfl
  have hequal : (Value.symbol a == .symbol b) = (a == b) := rfl
  have hdiffer : (a == b) = false := beq_eq_false_iff_ne.mpr hne
  refine ⟨hliteral.trans (congrArg _ hdiffer), fun es x => ?_, hequal.trans hdiffer⟩
  have hkeys : PropertyKey.symbol b ≠ .symbol a := fun h => hne (PropertyKey.symbol.inj h).symm
  have hget : (es.insert (.symbol a) x).get? (.symbol b) = es.get? (.symbol b) := by
    rw [Entries.get?_insert, if_neg hkeys]
  -- a symbol has no twin, so access finds what is stored under it or nothing
  rw [Entries.property?, Entries.property?, hget]
  rfl

/-- Two symbols that can be told apart by their descriptions. -/
def kindSymbol : Symbol := ⟨0, some "kind"⟩

@[inherit_doc kindSymbol]
def nameSymbol : Symbol := ⟨1, some "name"⟩

/-- A fresh symbol for each, all with one description. -/
def undescribed (a : Symbol) : Symbol := ⟨a.stamp + 2, none⟩

/-- Under the one symbol the other one is stored. -/
def crossed : Value := .object ⟨[(.symbol kindSymbol, .symbol nameSymbol)]⟩

/-- Under the other symbol it is stored itself. -/
def uncrossed : Value := .object ⟨[(.symbol nameSymbol, .symbol nameSymbol)]⟩

/-- Under a symbol the same symbol is asked for. -/
def straight : Descriptor := .shape ⟨[(.symbol kindSymbol, .literal kindSymbol)]⟩

/-- Without descriptions the text says that a symbol is found where that symbol is expected, and
    still the two are different. -/
theorem only_identity_of_symbols_matters_undescribed :
    (crossed.symbols ∪ uncrossed.symbols ∪ straight.symbols).InjOn undescribed ∧
    straight.GuardFree ∧
    (assert ⟨1, fun _ => none⟩ crossed straight).outcome =
      .error (.invalidType ⟨⟨[.symbol kindSymbol]⟩, "symbol(kind)", some "symbol(name)"⟩) ∧
    (assert ⟨1, fun _ => none⟩ (crossed.renamed undescribed)
        (straight.renamed undescribed)).outcome =
      .error (.invalidType ⟨⟨[.symbol ⟨2, none⟩]⟩, "symbol()", some "symbol()"⟩) ∧
    (accepts ⟨1, fun _ => none⟩ (crossed.renamed undescribed)
        (straight.renamed undescribed)).outcome = .ok false ∧
    (crossed.renamed undescribed == uncrossed.renamed undescribed) = false := by
  have hinj : (crossed.symbols ∪ uncrossed.symbols ∪ straight.symbols).InjOn undescribed := by
    simp [Set.InjOn, crossed, uncrossed, straight, Value.symbols, Value.symbolsOfEntries,
      Descriptor.symbols, Descriptor.symbolsOfFields, PropertyKey.symbols, undescribed, kindSymbol,
      nameSymbol]
  have hfree : straight.GuardFree := by simp [straight, Descriptor.GuardFree]
  have hrejected : (accepts ⟨1, fun _ => none⟩ crossed straight).outcome = .ok false := rfl
  have hdiffer : (crossed == uncrossed) = false := rfl
  obtain ⟨haccepts, -, hequal, -⟩ :=
    only_identity_of_symbols_matters ⟨1, fun _ => none⟩ hinj hfree
  refine ⟨hinj, hfree, rfl, rfl, ?_, hequal.trans hdiffer⟩
  rw [haccepts, hrejected]
  rfl

end Validator

end Conform
