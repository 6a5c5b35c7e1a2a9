import Conform.Proofs.Value.Equality

/-!
# Equality is a partial equivalence

Equality of values is symmetric and transitive. It fails to be reflexive for one reason only:
not-a-number differs from itself, and so does every value that holds it at any depth. Objects are
compared as maps, so that equality of objects can be said without the order of their entries.

## Main definitions

- `Value.HoldsNan` — not-a-number occurs somewhere in a value

## Main results

- `Value.eq_symm`, `Value.eq_trans` — the laws that hold of all values
- `Value.eq_self_iff` — the values that are equal to themselves
- `Value.equality_partial_equivalence` — all of this, with equality of objects
-/

namespace Conform

namespace Value

/-- Not-a-number occurs in a value: among the items of an array, the entries of an object or the
    properties of a function, at any depth. -/
inductive HoldsNan : Value → Prop
  | here (negative : Bool) (payload : NanPayload) : HoldsNan (number (.nan negative payload))
  | item {items : List Value} {x : Value} (hx : x ∈ items) (h : HoldsNan x) :
      HoldsNan (array items)
  | entry {es : Entries Value} {entry : PropertyKey × Value} (hentry : entry ∈ es.toList)
      (h : HoldsNan entry.2) : HoldsNan (object es)
  | property {f : Callable Value} {es : Entries Value} {entry : PropertyKey × Value}
      (hentry : entry ∈ es.toList) (h : HoldsNan entry.2) : HoldsNan (function f es)

-- ════════════════════════════════════════════════════════════════════════
-- Items and entries
-- ════════════════════════════════════════════════════════════════════════

theorem forall₂_imp_of_mem {R S : Value → Value → Prop} {xs ys : List Value}
    (h : List.Forall₂ R xs ys) (himp : ∀ x ∈ xs, ∀ y ∈ ys, R x y → S x y) :
    List.Forall₂ S xs ys := by
  obtain ⟨hlength, hzip⟩ := List.forall₂_iff_zip.mp h
  refine List.forall₂_iff_zip.mpr ⟨hlength, fun {x y} hxy => ?_⟩
  have hmem := List.of_mem_zip hxy
  exact himp x hmem.1 y hmem.2 (hzip hxy)

theorem forall₂_trans_of_mem {R : Value → Value → Prop} {xs ys zs : List Value}
    (h : List.Forall₂ R xs ys) (h' : List.Forall₂ R ys zs)
    (htrans : ∀ x ∈ xs, ∀ y z, R x y → R y z → R x z) : List.Forall₂ R xs zs := by
  induction h generalizing zs with
  | nil => exact h'
  | cons hxy _ ih =>
    cases h' with
    | cons hyz hrest =>
      refine .cons (htrans _ List.mem_cons_self _ _ hxy hyz) (ih hrest fun x hx => ?_)
      exact htrans x (List.mem_cons_of_mem _ hx)

namespace EqEntries

variable {es fs gs : Entries Value}

/-- An entry on the right has a partner on the left, since both sides store the same keys, and
    it is with this entry that the partner was compared. -/
theorem symm (h : EqEntries es fs) (hes : es.Keyed) (hfs : fs.Keyed)
    (hsymm : ∀ x ∈ es.toList, ∀ y ∈ fs.toList, x.2.eq y.2 = true → y.2.eq x.2 = true) :
    EqEntries fs es := by
  refine ⟨h.1.symm, fun entry hentry => ?_⟩
  have hkey : entry.1 ∈ es.keys :=
    (h.mem_keys_iff hes hfs entry.1).mpr (List.mem_map_of_mem hentry)
  obtain ⟨other, hother, hsame⟩ := List.mem_map.mp hkey
  obtain ⟨y, hy, heq⟩ := h.2 other hother
  rw [hsame, hfs.get?_eq_some_iff.mpr hentry] at hy
  obtain rfl := Option.some.inj hy
  refine ⟨other.2, hes.get?_eq_some_iff.mpr ?_, hsymm other hother entry hentry heq⟩
  rw [← hsame]
  exact hother

theorem trans (h : EqEntries es fs) (h' : EqEntries fs gs)
    (htrans : ∀ x ∈ es.toList, ∀ y z : Value, x.2.eq y = true → y.eq z = true →
      x.2.eq z = true) : EqEntries es gs := by
  refine ⟨h.1.trans h'.1, fun entry hentry => ?_⟩
  obtain ⟨y, hy, hxy⟩ := h.2 entry hentry
  obtain ⟨z, hz, hyz⟩ := h'.2 _ (Entries.mem_of_get? hy)
  exact ⟨z, hz, htrans entry hentry y z hxy hyz⟩

theorem self_iff (hes : es.Keyed) :
    EqEntries es es ↔ ∀ entry ∈ es.toList, entry.2.eq entry.2 = true := by
  constructor
  · intro h entry hentry
    obtain ⟨y, hy, heq⟩ := h.2 entry hentry
    rw [hes.get?_eq_some_iff.mpr hentry] at hy
    obtain rfl := Option.some.inj hy
    exact heq
  · intro h
    exact ⟨rfl, fun entry hentry => ⟨entry.2, hes.get?_eq_some_iff.mpr hentry, h entry hentry⟩⟩

/-- Entries are equal if they have the same keys and equal values under each of them. -/
theorem iff_keys (hes : es.Keyed) (hfs : fs.Keyed) :
    EqEntries es fs ↔ (∀ key, key ∈ es.keys ↔ key ∈ fs.keys) ∧
      ∀ key x y, es.get? key = some x → fs.get? key = some y → x.eq y = true := by
  constructor
  · intro h
    refine ⟨h.mem_keys_iff hes hfs, fun key x y hx hy => ?_⟩
    obtain ⟨z, hz, heq⟩ := h.2 _ (Entries.mem_of_get? hx)
    rw [hy] at hz
    obtain rfl := Option.some.inj hz
    exact heq
  · rintro ⟨hkeys, hvalues⟩
    have hperm : es.keys.Perm fs.keys := (List.perm_ext_iff_of_nodup hes hfs).mpr hkeys
    refine ⟨by simpa [Entries.keys, Entries.size] using hperm.length_eq, fun entry hentry => ?_⟩
    have hkey : entry.1 ∈ fs.keys := (hkeys entry.1).mp (List.mem_map_of_mem hentry)
    obtain ⟨other, hother, hsame⟩ := List.mem_map.mp hkey
    have hfound : fs.get? entry.1 = some other.2 := by
      rw [← hsame]
      exact hfs.get?_eq_some_iff.mpr hother
    exact ⟨other.2, hfound, hvalues _ _ _ (hes.get?_eq_some_iff.mpr hentry) hfound⟩

end EqEntries

-- ════════════════════════════════════════════════════════════════════════
-- Laws
-- ════════════════════════════════════════════════════════════════════════

variable {u v w : Value}

theorem eq_symm (hv : v.Keyed) (hw : w.Keyed) (h : v.eq w = true) : w.eq v = true := by
  induction hv generalizing w with
  | scalar hscalar =>
    cases eq_iff_sameForm.mp h with
    | number hnumber => exact Number.eq_symm hnumber
    | array | object | function => cases hscalar
    | _ => exact h
  | array _ ih =>
    cases eq_iff_sameForm.mp h with
    | array hitems =>
      have hflipped := forall₂_imp_of_mem hitems fun x hx y hy => ih x hx (hw.items y hy)
      exact eq_iff_sameForm.mpr (.array hflipped.flip)
  | object hkeys _ ih =>
    cases eq_iff_sameForm.mp h with
    | object hentries =>
      obtain ⟨hkeys', hw'⟩ := hw.entries
      have hflipped := hentries.symm hkeys hkeys' fun x hx y hy => ih x hx (hw' y hy)
      exact eq_iff_sameForm.mpr (.object hflipped)
  | function hkeys _ ih =>
    cases eq_iff_sameForm.mp h with
    | function hstamp hentries =>
      obtain ⟨hkeys', hw'⟩ := hw.properties
      have hflipped := hentries.symm hkeys hkeys' fun x hx y hy => ih x hx (hw' y hy)
      exact eq_iff_sameForm.mpr (.function hstamp.symm hflipped)

theorem eq_trans (hu : u.Keyed) (h : u.eq v = true) (h' : v.eq w = true) : u.eq w = true := by
  induction hu generalizing v w with
  | scalar hscalar =>
    cases eq_iff_sameForm.mp h with
    | number hnumber =>
      cases eq_iff_sameForm.mp h' with
      | number hnumber' => exact Number.eq_trans hnumber hnumber'
    | array | object | function => cases hscalar
    | _ => exact h'
  | array _ ih =>
    cases eq_iff_sameForm.mp h with
    | array hitems =>
      cases eq_iff_sameForm.mp h' with
      | array hitems' =>
        have hchained := forall₂_trans_of_mem hitems hitems' fun x hx y z => ih x hx
        exact eq_iff_sameForm.mpr (.array hchained)
  | object _ _ ih =>
    cases eq_iff_sameForm.mp h with
    | object hentries =>
      cases eq_iff_sameForm.mp h' with
      | object hentries' =>
        have hchained := hentries.trans hentries' fun x hx y z => ih x hx
        exact eq_iff_sameForm.mpr (.object hchained)
  | function _ _ ih =>
    cases eq_iff_sameForm.mp h with
    | function hstamp hentries =>
      cases eq_iff_sameForm.mp h' with
      | function hstamp' hentries' =>
        have hchained := hentries.trans hentries' fun x hx y z => ih x hx
        exact eq_iff_sameForm.mpr (.function (hstamp.trans hstamp') hchained)

theorem holdsNan_array_iff {items : List Value} :
    (array items).HoldsNan ↔ ∃ x ∈ items, x.HoldsNan :=
  ⟨fun | .item hx h => ⟨_, hx, h⟩, fun ⟨_, hx, h⟩ => .item hx h⟩

theorem holdsNan_object_iff {es : Entries Value} :
    (object es).HoldsNan ↔ ∃ entry ∈ es.toList, entry.2.HoldsNan :=
  ⟨fun | .entry hentry h => ⟨_, hentry, h⟩, fun ⟨_, hentry, h⟩ => .entry hentry h⟩

theorem holdsNan_function_iff {f : Callable Value} {es : Entries Value} :
    (function f es).HoldsNan ↔ ∃ entry ∈ es.toList, entry.2.HoldsNan :=
  ⟨fun | .property hentry h => ⟨_, hentry, h⟩, fun ⟨_, hentry, h⟩ => .property hentry h⟩

theorem eq_number_self_iff {n : Number} :
    (number n).eq (number n) = true ↔ ¬ (number n).HoldsNan := by
  rw [eq, Number.eq_self_iff]
  constructor
  · rintro h ⟨⟩
    exact h _ _ rfl
  · rintro h negative payload rfl
    exact h (.here negative payload)

/-- A value differs from itself exactly if it holds not-a-number. -/
theorem eq_self_iff (hv : v.Keyed) : v.eq v = true ↔ ¬ v.HoldsNan := by
  induction hv with
  | @scalar v hscalar =>
    cases v with
    | number n => exact eq_number_self_iff
    | array | object | function => cases hscalar
    | _ => exact iff_of_true (by simp [eq]) nofun
  | @array items _ ih =>
    have hitems : (array items).eq (array items) = true ↔ ∀ x ∈ items, x.eq x = true := by
      rw [eq, eqItems_iff, List.forall₂_same]
    rw [hitems, holdsNan_array_iff, not_exists]
    exact forall_congr' fun x => (forall_congr' (ih x)).trans not_and.symm
  | @object es hkeys _ ih =>
    have hentries : (object es).eq (object es) = true ↔ EqEntries es es := by
      rw [eq_iff_sameForm]
      exact ⟨fun | .object h => h, .object⟩
    rw [hentries, EqEntries.self_iff hkeys, holdsNan_object_iff, not_exists]
    exact forall_congr' fun entry => (forall_congr' (ih entry)).trans not_and.symm
  | @function f es hkeys _ ih =>
    have hentries : (function f es).eq (function f es) = true ↔ EqEntries es es := by
      rw [eq_iff_sameForm]
      exact ⟨fun | .function _ h => h, .function rfl⟩
    rw [hentries, EqEntries.self_iff hkeys, holdsNan_function_iff, not_exists]
    exact forall_congr' fun entry => (forall_congr' (ih entry)).trans not_and.symm

/-- Equality is a partial equivalence on values that store each key once. It is symmetric and
    transitive, and reflexive exactly where there is no not-a-number. Objects are equal if and only
    if they have the same keys, in whatever order, with equal values under each; an index and its
    numeral are different keys here. -/
theorem equality_partial_equivalence :
    (∀ v w : Value, v.Keyed → w.Keyed → (v == w) = true → (w == v) = true) ∧
    (∀ u v w : Value, u.Keyed → (u == v) = true → (v == w) = true → (u == w) = true) ∧
    (∀ v : Value, v.Keyed → ((v == v) = true ↔ ¬ v.HoldsNan)) ∧
    (∀ es fs : Entries Value, (object es).Keyed → (object fs).Keyed →
      ((object es == object fs) = true ↔ (∀ key, key ∈ es.keys ↔ key ∈ fs.keys) ∧
        ∀ key x y, es.get? key = some x → fs.get? key = some y → (x == y) = true)) ∧
    ∀ (i : Nat) (x y : Value),
      (object ⟨[(.string (toString i), x)]⟩ == object ⟨[(.index i, y)]⟩) = false := by
  refine ⟨fun v w => eq_symm, fun u v w => eq_trans, fun v => eq_self_iff, ?_, ?_⟩
  · intro es fs hes hfs
    have hentries : (object es == object fs) = true ↔ EqEntries es fs :=
      eq_iff_sameForm.trans ⟨fun | .object h => h, .object⟩
    exact hentries.trans (EqEntries.iff_keys hes.entries.1 hfs.entries.1)
  · intro i x y
    rw [Bool.eq_false_iff]
    intro h
    cases eq_iff_sameForm.mp h with
    | object hentries =>
      obtain ⟨z, hz, -⟩ := hentries.2 _ List.mem_cons_self
      rw [Entries.get?_cons, if_neg nofun] at hz
      cases hz

/-- A numeral and its index as two keys, the second with items of its own. -/
def limits (negative : Bool) : Value :=
  .object ⟨[(.string "0", .bigint 3), (.index 0, .array [.null, .number (.finite negative .zero)])]⟩

/-- The same entries in the other order. -/
def limitsReordered : Value :=
  .object ⟨[(.index 0, .array [.null, .number (.finite false .zero)]), (.string "0", .bigint 3)]⟩

/-- A callable with not-a-number among the items of a property. -/
def unlimited : Value :=
  .function ⟨0, none, .nothing⟩ ⟨[(.string "limits", .array [.number (.nan false .quiet)])]⟩

theorem equality_partial_equivalence_limits :
    (limits true).Keyed ∧ limitsReordered.Keyed ∧ unlimited.Keyed ∧
    (limits true == limitsReordered) = true ∧ (limitsReordered == limits true) = true ∧
    (limits true == limits false) = true ∧ ¬ (limits true).HoldsNan ∧
    unlimited.HoldsNan ∧ (unlimited == unlimited) = false := by
  have hnumber (n : Number) : (Value.number n).Keyed := .scalar rfl
  have hnull : null.Keyed := .scalar rfl
  have hbigint : (bigint 3).Keyed := .scalar rfl
  have hitems (negative : Bool) :
      (Value.array [.null, .number (.finite negative .zero)]).Keyed :=
    .array (by simp [hnull, hnumber])
  have hkeys : [PropertyKey.string "0", .index 0].Nodup := by decide
  have hkeysReordered : [PropertyKey.index 0, .string "0"].Nodup := by decide
  have hlimits : (limits true).Keyed := .object hkeys (by simp [hitems, hbigint])
  have hreordered : limitsReordered.Keyed := .object hkeysReordered (by simp [hitems, hbigint])
  have hunlimited : unlimited.Keyed :=
    .function (by simp [Entries.Keyed, Entries.keys])
      (by simpa using Keyed.array (by simp [hnumber]))
  have heq : (limits true == limitsReordered) = true := by decide
  have heq' : (limitsReordered == limits false) = true := by decide
  have hsame : (limits true == limits true) = true := by decide
  have hnan : unlimited.HoldsNan :=
    .property List.mem_cons_self (.item List.mem_cons_self (.here _ _))
  obtain ⟨hsymm, htrans, hself, -, -⟩ := equality_partial_equivalence
  refine ⟨hlimits, hreordered, hunlimited, heq, hsymm _ _ hlimits hreordered heq,
    htrans _ _ _ hlimits heq heq', (hself _ hlimits).mp hsame, hnan, ?_⟩
  rw [Bool.eq_false_iff]
  intro h
  exact (hself _ hunlimited).mp h hnan

end Value

end Conform
