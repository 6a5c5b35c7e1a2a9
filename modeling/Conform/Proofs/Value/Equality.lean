import Mathlib.Data.List.Forall2
import Mathlib.Data.List.Perm.Subperm
import Mathlib.Data.Option.Basic
import Conform.Proofs.Entries
import Conform.Proofs.Number.Equality
import Conform.Value.Equality
import Conform.Value.Received

/-!
# Laws of equality

Values that are equal are of one kind, and what is found in one of them is equal to what is found
in the other. For objects this takes a count: equality looks every entry of one side up on the
other and compares the sizes, so where each key is stored once both store the same keys. What
equality passes over, the order of entries, the name of a function and the sign of zero, does not
show in the text of a value either.

## Main definitions

- `Value.Keyed` — every object and function in a value stores each key once
- `Value.SameForm` — what equality compares, one level deep
- `Value.Equal` — equality between such values

## Main results

- `Value.eq_iff_sameForm` — equality, one level deep
- `Value.Equal.rel_get?` — what is found in equal values is equal
- `Value.Equal.received_eq` — equal values have one text
-/

namespace Conform

namespace Value

-- ════════════════════════════════════════════════════════════════════════
-- Values that store each key once
-- ════════════════════════════════════════════════════════════════════════

/-- Every object and every function in a value stores each key once. -/
inductive Keyed : Value → Prop
  | scalar {v : Value} (h : v.holdsProperties = false) : Keyed v
  | array {items : List Value} (h : ∀ x ∈ items, Keyed x) : Keyed (.array items)
  | object {entries : Entries Value} (hkeys : entries.Keyed)
      (h : ∀ entry ∈ entries.toList, Keyed entry.2) : Keyed (.object entries)
  | function {callable : Callable Value} {properties : Entries Value} (hkeys : properties.Keyed)
      (h : ∀ entry ∈ properties.toList, Keyed entry.2) : Keyed (.function callable properties)

theorem Keyed.items {items : List Value} (h : (Value.array items).Keyed) :
    ∀ x ∈ items, x.Keyed := by
  cases h with
  | scalar h => cases h
  | array h => exact h

theorem Keyed.entries {entries : Entries Value} (h : (Value.object entries).Keyed) :
    entries.Keyed ∧ ∀ entry ∈ entries.toList, entry.2.Keyed := by
  cases h with
  | scalar h => cases h
  | object hkeys h => exact ⟨hkeys, h⟩

theorem Keyed.properties {callable : Callable Value} {properties : Entries Value}
    (h : (Value.function callable properties).Keyed) :
    properties.Keyed ∧ ∀ entry ∈ properties.toList, entry.2.Keyed := by
  cases h with
  | scalar h => cases h
  | function hkeys h => exact ⟨hkeys, h⟩

-- ════════════════════════════════════════════════════════════════════════
-- Equality, one level deep
-- ════════════════════════════════════════════════════════════════════════

/-- Entries as equality compares them: as many, and each found on the other side. -/
def EqEntries (es fs : Entries Value) : Prop :=
  es.size = fs.size ∧
    ∀ entry ∈ es.toList, ∃ y, fs.get? entry.1 = some y ∧ entry.2.eq y = true

/-- What equality compares, one level deep. -/
inductive SameForm : Value → Value → Prop
  | undefined : SameForm undefined undefined
  | null : SameForm null null
  | bool (b : Bool) : SameForm (bool b) (bool b)
  | number {a b : Number} (h : a.eq b = true) : SameForm (number a) (number b)
  | bigint (n : Int) : SameForm (bigint n) (bigint n)
  | string (s : String) : SameForm (string s) (string s)
  | symbol (s : Symbol) : SameForm (symbol s) (symbol s)
  | array {xs ys : List Value} (h : List.Forall₂ (fun x y => x.eq y = true) xs ys) :
      SameForm (array xs) (array ys)
  | object {es fs : Entries Value} (h : EqEntries es fs) : SameForm (object es) (object fs)
  | function {f g : Callable Value} {es fs : Entries Value} (hstamp : f.stamp = g.stamp)
      (h : EqEntries es fs) : SameForm (function f es) (function g fs)

theorem eqItems_iff {xs ys : List Value} :
    eqItems xs ys = true ↔ List.Forall₂ (fun x y => x.eq y = true) xs ys := by
  induction xs generalizing ys with
  | nil => cases ys <;> simp [eqItems]
  | cons x xs ih => cases ys <;> simp [eqItems, ih]

theorem eqEntries_iff {es : List (PropertyKey × Value)} {fs : Entries Value} :
    eqEntries es fs = true ↔ ∀ entry ∈ es, ∃ y, fs.get? entry.1 = some y ∧ entry.2.eq y = true := by
  induction es with
  | nil => simp [eqEntries]
  | cons entry es ih =>
    obtain ⟨key, x⟩ := entry
    rw [eqEntries, Bool.and_eq_true_iff, ih, List.forall_mem_cons]
    cases fs.get? key <;> simp

theorem eq_iff_sameForm {v w : Value} : v.eq w = true ↔ SameForm v w := by
  constructor
  · intro h
    cases v <;> cases w <;> simp [eq] at h
    case undefined.undefined => exact .undefined
    case null.null => exact .null
    case bool.bool => exact h ▸ .bool _
    case number.number => exact .number h
    case bigint.bigint => exact h ▸ .bigint _
    case string.string => exact h ▸ .string _
    case symbol.symbol => exact h ▸ .symbol _
    case array.array => exact .array (eqItems_iff.mp h)
    case object.object => exact .object ⟨h.1, eqEntries_iff.mp h.2⟩
    case function.function => exact .function h.1.1 ⟨h.1.2, eqEntries_iff.mp h.2⟩
  · intro h
    cases h with
    | undefined | null => rfl
    | bool | bigint | string | symbol => simp [eq]
    | number h => exact h
    | array h => exact eqItems_iff.mpr h
    | @object es fs h =>
      obtain ⟨es⟩ := es
      exact Bool.and_eq_true_iff.mpr ⟨beq_iff_eq.mpr h.1, eqEntries_iff.mpr h.2⟩
    | @function f g es fs hstamp h =>
      obtain ⟨es⟩ := es
      have hentries := Bool.and_eq_true_iff.mpr ⟨beq_iff_eq.mpr hstamp, beq_iff_eq.mpr h.1⟩
      exact Bool.and_eq_true_iff.mpr ⟨hentries, eqEntries_iff.mpr h.2⟩

-- ════════════════════════════════════════════════════════════════════════
-- What is found
-- ════════════════════════════════════════════════════════════════════════

/-- Equal values each of which stores each key once. -/
def Equal (v w : Value) : Prop := v.eq w = true ∧ v.Keyed ∧ w.Keyed

namespace EqEntries

variable {es fs : Entries Value}

/-- Entries on one side are looked up on the other, and there are no more of them there: both
    sides store the same keys. -/
theorem mem_keys_iff (h : EqEntries es fs) (hes : es.Keyed) (hfs : fs.Keyed) (key : PropertyKey) :
    key ∈ es.keys ↔ key ∈ fs.keys := by
  obtain ⟨hsize, hfound⟩ := h
  have hsubset : es.keys ⊆ fs.keys := by
    intro key hkey
    obtain ⟨entry, hentry, rfl⟩ := List.mem_map.mp hkey
    obtain ⟨y, hy, -⟩ := hfound entry hentry
    exact List.mem_map.mpr ⟨(entry.1, y), hfs.get?_eq_some_iff.mp hy, rfl⟩
  have hlength : fs.keys.length ≤ es.keys.length := by
    simp only [Entries.keys, List.length_map]
    exact Nat.le_of_eq hsize.symm
  exact ((List.subperm_of_subset hes hsubset).perm_of_length_le hlength).mem_iff

/-- Under each key both sides store equal values, or nothing. -/
theorem rel_get? (h : EqEntries es fs) (hes : es.Keyed) (hfs : fs.Keyed)
    (hes' : ∀ entry ∈ es.toList, entry.2.Keyed) (hfs' : ∀ entry ∈ fs.toList, entry.2.Keyed)
    (key : PropertyKey) : Option.Rel Equal (es.get? key) (fs.get? key) := by
  cases hx : es.get? key with
  | none =>
    have hnone : fs.get? key = none := by
      rw [Entries.get?_eq_none_iff, ← h.mem_keys_iff hes hfs]
      exact Entries.get?_eq_none_iff.mp hx
    rw [hnone]
    exact .none
  | some x =>
    have hmem := hes.get?_eq_some_iff.mp hx
    obtain ⟨y, hy, heq⟩ := h.2 _ hmem
    rw [hy]
    exact .some ⟨heq, hes' _ hmem, hfs' _ (hfs.get?_eq_some_iff.mp hy)⟩

/-- Access finds equal values, or nothing: whether a key is there itself is the same on both sides,
    so that both fall back on its twin or neither does. -/
theorem rel_property? (h : EqEntries es fs) (hes : es.Keyed) (hfs : fs.Keyed)
    (hes' : ∀ entry ∈ es.toList, entry.2.Keyed) (hfs' : ∀ entry ∈ fs.toList, entry.2.Keyed)
    (key : PropertyKey) : Option.Rel Equal (es.property? key) (fs.property? key) := by
  have hget := h.rel_get? hes hfs hes' hfs'
  have hhere := hget key
  rw [Entries.property?, Entries.property?]
  generalize es.get? key = x at hhere
  generalize fs.get? key = y at hhere
  cases hhere with
  | some hxy => exact .some hxy
  | none =>
    cases key.twin? with
    | none => exact .none
    | some twin => exact hget twin

end EqEntries

theorem rel_getElem? {R : Value → Value → Prop} {xs ys : List Value} (h : List.Forall₂ R xs ys)
    (i : Nat) : Option.Rel R xs[i]? ys[i]? := by
  induction h generalizing i with
  | nil => exact .none
  | cons hxy _ ih =>
    cases i with
    | zero => exact .some hxy
    | succ i =>
      simp only [List.getElem?_cons_succ]
      exact ih i

namespace Equal

variable {v w : Value}

theorem kind_eq (h : v.Equal w) : v.kind = w.kind := by
  cases eq_iff_sameForm.mp h.1 <;> rfl

theorem asSymbol?_eq (h : v.Equal w) : v.asSymbol? = w.asSymbol? := by
  cases eq_iff_sameForm.mp h.1 <;> rfl

theorem rel_items {xs ys : List Value} (h : (array xs).Equal (array ys)) :
    List.Forall₂ Equal xs ys := by
  obtain ⟨heq, hxs, hys⟩ := h
  cases eq_iff_sameForm.mp heq with
  | array hitems =>
    obtain ⟨hlength, hzip⟩ := List.forall₂_iff_zip.mp hitems
    refine List.forall₂_iff_zip.mpr ⟨hlength, fun {x y} hxy => ?_⟩
    exact ⟨hzip hxy, hxs.items x (List.of_mem_zip hxy).1, hys.items y (List.of_mem_zip hxy).2⟩

/-- Items of equal arrays are equal one by one. -/
theorem rel_asArray? (h : v.Equal w) :
    Option.Rel (List.Forall₂ Equal) v.asArray? w.asArray? := by
  cases eq_iff_sameForm.mp h.1 with
  | array => exact .some h.rel_items
  | _ => exact .none

/-- What is found in equal values is equal. -/
theorem rel_get? (h : v.Equal w) (key : PropertyKey) :
    Option.Rel Equal (v.get? key) (w.get? key) := by
  cases eq_iff_sameForm.mp h.1 with
  | array =>
    have hitems := h.rel_items
    simp only [Value.get?]
    cases key.asIndex? with
    | none => exact .none
    | some i => exact rel_getElem? hitems i
  | object hentries =>
    obtain ⟨hes, hes'⟩ := h.2.1.entries
    obtain ⟨hfs, hfs'⟩ := h.2.2.entries
    exact hentries.rel_property? hes hfs hes' hfs' key
  | function _ hentries =>
    obtain ⟨hes, hes'⟩ := h.2.1.properties
    obtain ⟨hfs, hfs'⟩ := h.2.2.properties
    exact hentries.rel_property? hes hfs hes' hfs' key
  | _ => exact .none

end Equal

-- ════════════════════════════════════════════════════════════════════════
-- Texts
-- ════════════════════════════════════════════════════════════════════════

/-- Items of the same kinds stand for the same text between the brackets. -/
theorem itemsText_congr {xs ys : List Value} (h : xs.map kind = ys.map kind) :
    itemsText xs = itemsText ys := by
  cases xs with
  | nil =>
    obtain rfl : ys = [] := List.map_eq_nil_iff.mp h.symm
    rfl
  | cons x xs =>
    cases ys with
    | nil => cases h
    | cons y ys =>
      obtain ⟨hkind, hkinds⟩ := List.cons.inj h
      have hlength : xs.length = ys.length := by simpa using congrArg List.length hkinds
      have hall : (xs.all fun w => w.kind == y.kind) = ys.all fun w => w.kind == y.kind := by
        have hmapped := congrArg (List.all · (· == y.kind)) hkinds
        rw [List.all_map, List.all_map] at hmapped
        exact hmapped
      simp only [itemsText, commonKind?, List.length_cons, hlength, hall, hkind]

/-- Equal values have one text. -/
theorem Equal.received_eq {v w : Value} (h : v.Equal w) : v.received = w.received := by
  cases eq_iff_sameForm.mp h.1 with
  | number hnumber => rw [received, received, Number.text_eq_of_eq hnumber]
  | array =>
    have hkinds := List.Forall₂.imp (fun x y hxy => Equal.kind_eq hxy) h.rel_items
    rw [← List.forall₂_map_right_iff, ← List.forall₂_map_left_iff, List.forall₂_eq_eq_eq] at hkinds
    rw [received, received, itemsText_congr hkinds]
  | _ => rfl

end Value

end Conform
