import Mathlib.Data.List.Forall2
import Conform.Proofs.Entries
import Conform.Proofs.Evaluation.Meaning
import Conform.Proofs.Evaluation.SideBySide
import Conform.Proofs.Value.Equality

/-!
# Objects are open

A shape asks for the keys that it declares and for nothing else, so a value goes on conforming when
further properties are added to it, at any depth. What was found under a key is found as before, and
no value was ever accepted because a property was absent. The keys that are added must be new:
neither stored nor the twin of a stored key, since a stored key hides what is under its twin.

## Main definitions

- `Entries.IsNew` — a key that is neither stored nor the twin of a stored one
- `Value.Inserted` — entries that are kept, with further entries among them
- `Value.Extends` — a value with further properties at any depth

## Main results

- `Value.Extends.insert` — to store a value under a new key is to extend an object
- `Value.Extends.exists_get?` — what is found in a value is found, extended, in the other
- `Value.Extends.conforms` — what conforms goes on conforming
- `Validator.acceptance_survives_extension` — so what is accepted stays accepted
-/

namespace Conform

/-- A key under which nothing is stored, nor under its twin. -/
def Entries.IsNew {α : Type} (es : Entries α) (key : PropertyKey) : Prop :=
  key ∉ es.keys ∧ ∀ stored ∈ es.keys, key.twin? ≠ some stored

theorem Entries.mem_keys_of_get? {α : Type} {es : Entries α} {key : PropertyKey} {x : α}
    (h : es.get? key = some x) : key ∈ es.keys :=
  List.mem_map_of_mem (Entries.mem_of_get? h)

namespace Value

-- ════════════════════════════════════════════════════════════════════════
-- Entries
-- ════════════════════════════════════════════════════════════════════════

/-- Entries in their order, each with a related value in place of its own, and entries under some
    further keys among them. -/
inductive Inserted (R : Value → Value → Prop) :
    List (PropertyKey × Value) → List PropertyKey → List (PropertyKey × Value) → Prop
  | nil : Inserted R [] [] []
  | kept {key : PropertyKey} {x y : Value} {es fs : List (PropertyKey × Value)}
      {new : List PropertyKey} (h : R x y) (hrest : Inserted R es new fs) :
      Inserted R ((key, x) :: es) new ((key, y) :: fs)
  | added {key : PropertyKey} {y : Value} {es fs : List (PropertyKey × Value)}
      {new : List PropertyKey} (hrest : Inserted R es new fs) :
      Inserted R es (key :: new) ((key, y) :: fs)

namespace Inserted

variable {R : Value → Value → Prop} {new : List PropertyKey} {key : PropertyKey} {x : Value}

/-- What is stored under a key stays there, as long as nothing is added under it. -/
theorem exists_get? {es fs : List (PropertyKey × Value)} (h : Inserted R es new fs)
    (hkey : key ∉ new) (hx : (⟨es⟩ : Entries Value).get? key = some x) :
    ∃ y, (⟨fs⟩ : Entries Value).get? key = some y ∧ R x y := by
  induction h with
  | nil => cases hx
  | @kept k _ y _ _ _ hxy _ ih =>
    rw [Entries.get?_cons] at hx ⊢
    by_cases hk : key = k
    · rw [if_pos hk] at hx ⊢
      obtain rfl := Option.some.inj hx
      exact ⟨y, rfl, hxy⟩
    · rw [if_neg hk] at hx ⊢
      exact ih hkey hx
  | added _ ih =>
    obtain ⟨hne, hrest⟩ := List.ne_and_not_mem_of_not_mem_cons hkey
    rw [Entries.get?_cons, if_neg hne]
    exact ih hrest hx

theorem mem_keys {es fs : List (PropertyKey × Value)} (h : Inserted R es new fs)
    (hkey : key ∈ fs.map Prod.fst) : key ∈ es.map Prod.fst ∨ key ∈ new := by
  induction h with
  | nil => cases hkey
  | @kept k _ _ _ _ _ _ _ ih =>
    rcases List.mem_cons.mp hkey with rfl | hrest
    · exact .inl List.mem_cons_self
    · exact (ih hrest).imp (List.mem_cons_of_mem k) id
  | @added k _ _ _ _ _ ih =>
    rcases List.mem_cons.mp hkey with rfl | hrest
    · exact .inr List.mem_cons_self
    · exact (ih hrest).imp id (List.mem_cons_of_mem k)

/-- What access finds is found as before. Where access falls back on the twin of a key, nothing is
    added under the key itself. -/
theorem exists_property? {es fs : Entries Value} (h : Inserted R es.toList new fs.toList)
    (hnew : ∀ key ∈ new, es.IsNew key) (hx : es.property? key = some x) :
    ∃ y, fs.property? key = some y ∧ R x y := by
  have hfound {k : PropertyKey} {z : Value} (hk : es.get? k = some z) :
      ∃ y, fs.get? k = some y ∧ R z y :=
    h.exists_get? (fun hmem => (hnew k hmem).1 (Entries.mem_keys_of_get? hk)) hk
  rw [Entries.property?] at hx ⊢
  cases hhere : es.get? key with
  | some z =>
    rw [hhere] at hx
    obtain rfl := Option.some.inj hx
    obtain ⟨y, hy, hxy⟩ := hfound hhere
    rw [hy]
    exact ⟨y, rfl, hxy⟩
  | none =>
    rw [hhere] at hx
    obtain ⟨twin, htwin, hstored⟩ := Option.bind_eq_some_iff.mp hx
    have hnone : fs.get? key = none := by
      rw [Entries.get?_eq_none_iff] at hhere ⊢
      intro hkey
      rcases h.mem_keys hkey with hmem | hmem
      · exact hhere hmem
      · exact (hnew key hmem).2 twin (Entries.mem_keys_of_get? hstored) htwin
    rw [hnone, htwin]
    exact hfound hstored

end Inserted

-- ════════════════════════════════════════════════════════════════════════
-- Values
-- ════════════════════════════════════════════════════════════════════════

/-- A value to which properties are added, in any of its objects and functions and at any depth,
    under keys that are new there. All else is the same. -/
inductive Extends : Value → Value → Prop
  | scalar {v : Value} (h : v.holdsProperties = false) : Extends v v
  | array {xs ys : List Value} (h : List.Forall₂ Extends xs ys) : Extends (array xs) (array ys)
  | object {es fs : Entries Value} {new : List PropertyKey} (hnew : ∀ key ∈ new, es.IsNew key)
      (h : Inserted Extends es.toList new fs.toList) : Extends (object es) (object fs)
  | function (callable : Callable Value) {es fs : Entries Value} {new : List PropertyKey}
      (hnew : ∀ key ∈ new, es.IsNew key) (h : Inserted Extends es.toList new fs.toList) :
      Extends (function callable es) (function callable fs)

namespace Extends

mutual

theorem refl (v : Value) : v.Extends v := by
  cases v with
  | array xs => exact .array (refl_items xs)
  | object es => exact .object (List.forall_mem_nil _) (refl_entries es.toList)
  | function callable es =>
    exact .function callable (List.forall_mem_nil _) (refl_entries es.toList)
  | _ => exact .scalar rfl

theorem refl_items (xs : List Value) : List.Forall₂ Extends xs xs := by
  cases xs with
  | nil => exact .nil
  | cons x xs => exact .cons (refl x) (refl_items xs)

theorem refl_entries (es : List (PropertyKey × Value)) : Inserted Extends es [] es := by
  cases es with
  | nil => exact .nil
  | cons entry es => exact .kept (refl entry.2) (refl_entries es)

end

/-- To store a value under a new key is to extend an object. -/
theorem insert {es : Entries Value} {key : PropertyKey} (hnew : es.IsNew key) (x : Value) :
    (Value.object es).Extends (.object (es.insert key x)) := by
  have hadded : Inserted Extends es.toList [key] (es.insert key x).toList := by
    obtain ⟨es⟩ := es
    have hfresh : key ∉ es.map Prod.fst := hnew.1
    clear hnew
    induction es with
    | nil => exact .added .nil
    | cons entry es ih =>
      obtain ⟨hne, hrest⟩ := List.ne_and_not_mem_of_not_mem_cons hfresh
      rw [Entries.insert_cons_of_ne entry.2 x es hne.symm]
      exact .kept (refl entry.2) (ih hrest)
  refine .object (fun k hk => ?_) hadded
  obtain rfl := List.mem_singleton.mp hk
  exact hnew

variable {v w : Value}

theorem kind_eq (h : v.Extends w) : v.kind = w.kind := by
  cases h <;> rfl

theorem exists_getElem? {xs ys : List Value} (h : List.Forall₂ Extends xs ys) {i : Nat} {x : Value}
    (hx : xs[i]? = some x) : ∃ y, ys[i]? = some y ∧ x.Extends y := by
  have hitem := rel_getElem? h i
  rw [hx] at hitem
  generalize ys[i]? = item at hitem
  cases hitem with
  | some hxy => exact ⟨_, rfl, hxy⟩

theorem exists_of_mem {xs ys : List Value} (h : List.Forall₂ Extends xs ys) {y : Value}
    (hy : y ∈ ys) : ∃ x ∈ xs, x.Extends y := by
  obtain ⟨i, hi⟩ := List.mem_iff_getElem?.mp hy
  have hitem := rel_getElem? h i
  rw [hi] at hitem
  generalize hx : xs[i]? = item at hitem
  cases hitem with
  | some hxy => exact ⟨_, List.mem_of_getElem? hx, hxy⟩

/-- What is found in a value is found, extended, in the value with further properties. -/
theorem exists_get? (h : v.Extends w) {key : PropertyKey} {x : Value} (hx : v.get? key = some x) :
    ∃ y, w.get? key = some y ∧ x.Extends y := by
  cases h with
  | scalar hscalar => cases v <;> cases hscalar <;> cases hx
  | array h =>
    obtain ⟨i, hi, hx⟩ := Option.bind_eq_some_iff.mp hx
    simp only [get?, hi]
    exact exists_getElem? h hx
  | object hnew h => exact h.exists_property? hnew hx
  | function callable hnew h => exact h.exists_property? hnew hx

/-- What conforms to a descriptor without guards goes on conforming. -/
theorem conforms {verdict : Guard Descriptor → Value → Bool} {d : Descriptor}
    (hextends : v.Extends w) (hfree : d.GuardFree) (h : Conforms verdict v d) :
    Conforms verdict w d := by
  induction h generalizing w with
  | primitive h => exact .primitive ((Primitive.test_congr hextends.kind_eq _).symm.trans h)
  | literal s =>
    cases hextends
    exact .literal s
  | guard h => exact (Descriptor.allGuards_guard.mp hfree).elim
  | arrayOf _ ih =>
    have hitem := Descriptor.allGuards_arrayOf.mp hfree
    cases hextends with
    | scalar hscalar => cases hscalar
    | array hitems =>
      refine .arrayOf fun y hy => ?_
      obtain ⟨x, hx, hxy⟩ := exists_of_mem hitems hy
      exact ih x hx hxy hitem
  | @shape v fields hholds hpresent _ ih =>
    have hfields := Descriptor.allGuards_shape.mp hfree
    refine conforms_shape.mpr ⟨?_, fun entry hentry => ?_⟩
    · rw [← Value.holdsProperties_congr hextends.kind_eq]
      exact hholds
    · obtain ⟨x, hx⟩ := Option.isSome_iff_exists.mp (hpresent entry hentry)
      obtain ⟨y, hy, hxy⟩ := hextends.exists_get? hx
      exact ⟨y, hy, ih entry hentry x hx hxy (hfields entry hentry)⟩
  | union hmem _ ih =>
    have hmembers := Descriptor.allGuards_union.mp hfree
    exact .union hmem (ih hextends (hmembers _ hmem))
  | intersection _ ih =>
    have hmembers := Descriptor.allGuards_intersection.mp hfree
    exact .intersection fun member hmem => ih member hmem hextends (hmembers member hmem)

end Extends

end Value

namespace Validator

variable {va : Validator} {v w : Value} {d : Descriptor}

/-- A value that is accepted goes on being accepted, in both modes, when properties are added to
    it. The answer of a union may come from another of its members than before. -/
theorem acceptance_survives_extension (hextends : v.Extends w) (hfree : d.GuardFree)
    (hheight : d.height ≤ va.maxDepth) (haccepts : (va.accepts v d).outcome = .ok true) :
    (va.accepts w d).outcome = .ok true ∧ (va.assert w d).outcome = .ok () := by
  -- there are no guards to answer, so any verdicts on them do
  let verdict : Guard Descriptor → Value → Bool := fun _ _ => true
  have hguards : d.AllGuards fun g => g.Answers va (verdict g) := hfree.allGuards
  have hdecides (x : Value) := decides_conforms 0 x d .root hguards hheight
  have hconforms : Conforms verdict v d := (hdecides v).outcome_eq_true_iff.mp haccepts
  have hstays : Conforms verdict w d := hextends.conforms hfree hconforms
  exact ⟨(hdecides w).outcome_eq_true_iff.mpr hstays,
    (assert_eq_ok_iff_conforms w d hguards hheight).mpr hstays⟩

/-- A list, under a numeral, of things that have a label or a size. -/
def marked : Descriptor :=
  .shape ⟨[(.string "0", .arrayOf (.union [
    .shape ⟨[(.string "label", .primitive .nullish)]⟩,
    .shape ⟨[(.string "size", .primitive .number)]⟩]))]⟩

/-- One thing with a size, in a list that is stored under an index. -/
def sized : Value :=
  .object ⟨[(.index 0, .array [.object ⟨[(.string "size", .number (.finite false .zero))]⟩])]⟩

/-- The thing is given a label in front of its size, and the list two neighbours. -/
def sizedAndLabelled : Value :=
  .object ⟨[(.index 1, .bool true),
    (.index 0, .array [.object ⟨[(.string "label", .undefined),
      (.string "size", .number (.finite false .zero))]⟩]),
    (.string "2", .null)]⟩

/-- With the label the first member of the union answers and not the second. -/
theorem acceptance_survives_extension_sized :
    sized.Extends sizedAndLabelled ∧ marked.GuardFree ∧ marked.height ≤ 4 ∧
    (accepts ⟨4, fun _ => none⟩ sized marked).outcome = .ok true ∧
    (accepts ⟨4, fun _ => none⟩ sizedAndLabelled marked).outcome = .ok true := by
  have hlabel : ∀ key ∈ [PropertyKey.string "label"],
      (⟨[(.string "size", .number (.finite false .zero))]⟩ : Entries Value).IsNew key := by
    simp [Entries.IsNew, Entries.keys, PropertyKey.twin?]
  have hneighbours : ∀ key ∈ [PropertyKey.index 1, .string "2"],
      (⟨[(.index 0, .array [.object ⟨[(.string "size", .number (.finite false .zero))]⟩])]⟩ :
        Entries Value).IsNew key := by
    have hnumeral : Numeral.value? "2" = some 2 := by decide
    simp [Entries.IsNew, Entries.keys, PropertyKey.twin?, hnumeral]
  have hextends : sized.Extends sizedAndLabelled :=
    .object hneighbours (.added (.kept
      (.array (.cons (.object hlabel (.added (.kept (.scalar rfl) .nil))) .nil)) (.added .nil)))
  have hfree : marked.GuardFree := by simp [marked, Descriptor.GuardFree]
  have hheight : marked.height ≤ 4 := by decide
  have haccepts : (accepts ⟨4, fun _ => none⟩ sized marked).outcome = .ok true := rfl
  have hstays : (accepts ⟨4, fun _ => none⟩ sizedAndLabelled marked).outcome = .ok true :=
    (acceptance_survives_extension hextends hfree hheight haccepts).1
  exact ⟨hextends, hfree, hheight, haccepts, hstays⟩

/-- The twin of a stored key is not new. Stored next to it, it hides what the numeral led to. -/
example : (accepts ⟨4, fun _ => none⟩ (.object ⟨[(.string "0", .null),
    (.index 0, .array [.object ⟨[(.string "size", .number (.finite false .zero))]⟩])]⟩)
    marked).outcome = .ok false := rfl

end Validator

end Conform
