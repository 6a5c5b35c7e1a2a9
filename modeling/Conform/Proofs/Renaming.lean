import Mathlib.Data.Set.Function
import Conform.Descriptor.Render
import Conform.Proofs.Entries
import Conform.Proofs.Value.Equality

/-!
# Renaming symbols

Other symbols can take the place of those in a value, in a descriptor and in the places of a
failure, as values, as keys and as literals alike. A renaming says which, and it need not keep any
description. As long as it takes the symbols that occur to different ones, look-up and equality
commute with it.

## Main definitions

- `Value.symbols`, `Descriptor.symbols` — the symbols that occur
- `Value.renamed`, `Descriptor.renamed`, `Path.renamed` — other symbols in their place
- `Failure.RenamedBy` — the same failure of the renamed value and descriptor, at the renamed place

## Main results

- `Value.get?_renamed` — what is found is what was found, renamed
- `Value.eq_renamed` — values are as equal as they were
-/

namespace Conform

variable {s : Symbol → Symbol} {S : Set Symbol}

-- ════════════════════════════════════════════════════════════════════════
-- Keys, paths and entries
-- ════════════════════════════════════════════════════════════════════════

namespace PropertyKey

/-- The symbols that occur in a key: the key itself, if it is one. -/
def symbols : PropertyKey → Set Symbol
  | symbol a => {a}
  | _ => ∅

/-- The key with another symbol in place of its own. -/
def renamed (s : Symbol → Symbol) : PropertyKey → PropertyKey
  | symbol a => symbol (s a)
  | key => key

theorem renamed_inj (hinj : S.InjOn s) {key key' : PropertyKey} (hkey : key.symbols ⊆ S)
    (hkey' : key'.symbols ⊆ S) : key.renamed s = key'.renamed s ↔ key = key' := by
  cases key <;> cases key' <;> simp only [renamed, reduceCtorEq, string.injEq, index.injEq]
  rw [symbol.injEq, symbol.injEq]
  exact hinj.eq_iff (hkey rfl) (hkey' rfl)

theorem asIndex?_renamed (key : PropertyKey) : (key.renamed s).asIndex? = key.asIndex? := by
  cases key <;> rfl

/-- A key has the twin that it had: a symbol has none, and the twins of other keys are no
    symbols. -/
theorem twin?_renamed (key : PropertyKey) :
    (key.renamed s).twin? = key.twin?.map (renamed s) := by
  cases key with
  | string t =>
    change (Numeral.value? t).map index = ((Numeral.value? t).map index).map (renamed s)
    cases Numeral.value? t <;> rfl
  | index i => rfl
  | symbol a => rfl

theorem symbols_of_twin? {key twin : PropertyKey} (h : key.twin? = some twin) :
    twin.symbols = ∅ := by
  cases key with
  | string t =>
    obtain ⟨i, -, rfl⟩ := Option.map_eq_some_iff.mp h
    rfl
  | index i =>
    obtain rfl := Option.some.inj h
    rfl
  | symbol a => cases h

end PropertyKey

/-- The path with other symbols in place of those among its keys. -/
def Path.renamed (s : Symbol → Symbol) (p : Path) : Path := ⟨p.keys.map (.renamed s)⟩

theorem Path.renamed_child (p : Path) (key : PropertyKey) :
    (p.child key).renamed s = (p.renamed s).child (key.renamed s) := by
  simp [renamed, child]

/-- The fault with other symbols in place of those among the keys of its place. -/
def Fault.renamed (s : Symbol → Symbol) : Fault → Fault
  | guard cause contexts => guard cause contexts
  | depthExceeded p limit => depthExceeded (p.renamed s) limit

namespace Entries

variable {α β : Type}

/-- The entries under renamed keys, each with another item in place of its own. -/
def renamed (s : Symbol → Symbol) (f : α → β) (es : Entries α) : Entries β :=
  ⟨es.toList.map fun entry => (entry.1.renamed s, f entry.2)⟩

theorem size_renamed (es : Entries α) (f : α → β) : (es.renamed s f).size = es.size :=
  List.length_map _

theorem get?_renamed (hinj : S.InjOn s) {es : Entries α}
    (hkeys : ∀ entry ∈ es.toList, entry.1.symbols ⊆ S) {key : PropertyKey}
    (hkey : key.symbols ⊆ S) (f : α → β) :
    (es.renamed s f).get? (key.renamed s) = (es.get? key).map f := by
  obtain ⟨es⟩ := es
  induction es with
  | nil => rfl
  | cons entry es ih =>
    obtain ⟨k, x⟩ := entry
    obtain ⟨hk, hrest⟩ := List.forall_mem_cons.mp hkeys
    have hcons : (⟨(k, x) :: es⟩ : Entries α).renamed s f =
        ⟨(k.renamed s, f x) :: ((⟨es⟩ : Entries α).renamed s f).toList⟩ := rfl
    rw [hcons, get?_cons, get?_cons]
    by_cases h : key = k
    · rw [if_pos h, if_pos (congrArg _ h)]
      rfl
    · rw [if_neg h, if_neg fun h' => h ((PropertyKey.renamed_inj hinj hkey hk).mp h')]
      exact ih hrest

theorem property?_renamed (hinj : S.InjOn s) {es : Entries α}
    (hkeys : ∀ entry ∈ es.toList, entry.1.symbols ⊆ S) {key : PropertyKey}
    (hkey : key.symbols ⊆ S) (f : α → β) :
    (es.renamed s f).property? (key.renamed s) = (es.property? key).map f := by
  have hget {k : PropertyKey} (hk : k.symbols ⊆ S) := get?_renamed hinj hkeys hk f
  rw [property?, property?, hget hkey, PropertyKey.twin?_renamed]
  cases es.get? key with
  | some x => rfl
  | none =>
    cases htwin : key.twin? with
    | none => rfl
    | some twin =>
      have hsymbols := PropertyKey.symbols_of_twin? htwin
      exact hget (hsymbols ▸ Set.empty_subset S)

/-- What access finds is stored, under the key itself or under its twin. -/
theorem exists_mem_of_property? {es : Entries α} {key : PropertyKey} {x : α}
    (h : es.property? key = some x) : ∃ stored, (stored, x) ∈ es.toList := by
  rw [property?] at h
  cases hhere : es.get? key with
  | some y =>
    rw [hhere] at h
    obtain rfl := Option.some.inj h
    exact ⟨key, mem_of_get? hhere⟩
  | none =>
    rw [hhere] at h
    obtain ⟨twin, -, hstored⟩ := Option.bind_eq_some_iff.mp h
    exact ⟨twin, mem_of_get? hstored⟩

end Entries

-- ════════════════════════════════════════════════════════════════════════
-- Values
-- ════════════════════════════════════════════════════════════════════════

namespace Value

mutual

/-- The symbols that occur in a value, as values or as keys. -/
def symbols : Value → Set Symbol
  | symbol a => {a}
  | array items => symbolsOfItems items
  | object ⟨es⟩ | function _ ⟨es⟩ => symbolsOfEntries es
  | _ => ∅

/-- The symbols that occur in a list of values. -/
def symbolsOfItems : List Value → Set Symbol
  | [] => ∅
  | x :: xs => symbols x ∪ symbolsOfItems xs

/-- The symbols that occur in a list of entries. -/
def symbolsOfEntries : List (PropertyKey × Value) → Set Symbol
  | [] => ∅
  | (key, x) :: es => key.symbols ∪ symbols x ∪ symbolsOfEntries es

end

mutual

/-- The value with other symbols in place of its own. Callables stay as they are. -/
def renamed (s : Symbol → Symbol) : Value → Value
  | symbol a => symbol (s a)
  | array items => array (renamedItems s items)
  | object ⟨es⟩ => object ⟨renamedEntries s es⟩
  | function callable ⟨es⟩ => function callable ⟨renamedEntries s es⟩
  | v => v

/-- The values of a list with other symbols in place of their own. -/
def renamedItems (s : Symbol → Symbol) : List Value → List Value
  | [] => []
  | x :: xs => renamed s x :: renamedItems s xs

/-- The entries of a list with other symbols in place of their own. -/
def renamedEntries (s : Symbol → Symbol) : List (PropertyKey × Value) → List (PropertyKey × Value)
  | [] => []
  | (key, x) :: es => (key.renamed s, renamed s x) :: renamedEntries s es

end

theorem symbolsOfItems_subset {items : List Value} :
    symbolsOfItems items ⊆ S ↔ ∀ x ∈ items, x.symbols ⊆ S := by
  induction items with
  | nil => simp [symbolsOfItems]
  | cons x xs ih => simp [symbolsOfItems, ih]

theorem symbolsOfEntries_subset {es : List (PropertyKey × Value)} :
    symbolsOfEntries es ⊆ S ↔ ∀ entry ∈ es, entry.1.symbols ⊆ S ∧ entry.2.symbols ⊆ S := by
  induction es with
  | nil => simp [symbolsOfEntries]
  | cons entry es ih => simp [symbolsOfEntries, ih]

theorem renamedItems_eq_map (items : List Value) :
    renamedItems s items = items.map (renamed s) := by
  induction items with
  | nil => rfl
  | cons x xs ih => rw [renamedItems, ih, List.map_cons]

theorem renamedEntries_eq_map (es : List (PropertyKey × Value)) :
    renamedEntries s es = es.map fun entry => (entry.1.renamed s, entry.2.renamed s) := by
  induction es with
  | nil => rfl
  | cons entry es ih => rw [renamedEntries, ih, List.map_cons]

theorem renamed_object (es : Entries Value) :
    (object es).renamed s = object (es.renamed s (renamed s)) := by
  rw [Entries.renamed, ← renamedEntries_eq_map]
  rfl

theorem renamed_function (callable : Callable Value) (es : Entries Value) :
    (function callable es).renamed s = function callable (es.renamed s (renamed s)) := by
  rw [Entries.renamed, ← renamedEntries_eq_map]
  rfl

theorem kind_renamed (v : Value) : (v.renamed s).kind = v.kind := by
  cases v <;> rfl

theorem get?_renamed (hinj : S.InjOn s) {v : Value} (hv : v.symbols ⊆ S) {key : PropertyKey}
    (hkey : key.symbols ⊆ S) :
    (v.renamed s).get? (key.renamed s) = (v.get? key).map (renamed s) := by
  cases v with
  | array items =>
    simp only [renamed, get?, renamedItems_eq_map, PropertyKey.asIndex?_renamed]
    cases key.asIndex? with
    | none => rfl
    | some i => simp
  | object es =>
    have hkeys := fun entry hentry => (symbolsOfEntries_subset.mp hv entry hentry).1
    rw [renamed_object]
    exact Entries.property?_renamed hinj hkeys hkey _
  | function callable es =>
    have hkeys := fun entry hentry => (symbolsOfEntries_subset.mp hv entry hentry).1
    rw [renamed_function]
    exact Entries.property?_renamed hinj hkeys hkey _
  | _ => rfl

/-- No symbols occur in what is found but those that occur in the whole. -/
theorem symbols_subset_of_get? {v x : Value} {key : PropertyKey} (hv : v.symbols ⊆ S)
    (hx : v.get? key = some x) : x.symbols ⊆ S := by
  cases v with
  | array items =>
    obtain ⟨i, -, hi⟩ := Option.bind_eq_some_iff.mp hx
    exact symbolsOfItems_subset.mp hv x (List.mem_of_getElem? hi)
  | object es =>
    obtain ⟨stored, hstored⟩ := Entries.exists_mem_of_property? hx
    exact (symbolsOfEntries_subset.mp hv _ hstored).2
  | function callable es =>
    obtain ⟨stored, hstored⟩ := Entries.exists_mem_of_property? hx
    exact (symbolsOfEntries_subset.mp hv _ hstored).2
  | _ => cases hx

theorem eq_object (es fs : Entries Value) :
    (object es).eq (object fs) = (es.size == fs.size && eqEntries es.toList fs) := rfl

theorem eq_function (f g : Callable Value) (es fs : Entries Value) :
    (function f es).eq (function g fs) =
      (f.stamp == g.stamp && es.size == fs.size && eqEntries es.toList fs) := rfl

mutual

/-- Values are as equal as they were. -/
theorem eq_renamed (hinj : S.InjOn s) (v w : Value) (hv : v.symbols ⊆ S) (hw : w.symbols ⊆ S) :
    (v.renamed s).eq (w.renamed s) = v.eq w := by
  cases v with
  | symbol a =>
    cases w with
    | symbol b =>
      rw [Bool.eq_iff_iff]
      simp only [renamed, eq, beq_iff_eq]
      exact hinj.eq_iff (hv rfl) (hw rfl)
    | _ => rfl
  | array xs =>
    cases w with
    | array ys =>
      exact eqItems_renamed hinj xs ys (symbolsOfItems_subset.mp hv) (symbolsOfItems_subset.mp hw)
    | _ => rfl
  | object es =>
    cases w with
    | object fs =>
      have hentries : eqEntries (es.renamed s (renamed s)).toList (fs.renamed s (renamed s)) =
          eqEntries es.toList fs :=
        eqEntries_renamed hinj es.toList fs (symbolsOfEntries_subset.mp hv)
          (symbolsOfEntries_subset.mp hw)
      rw [renamed_object, renamed_object, eq_object, eq_object, hentries, Entries.size_renamed,
        Entries.size_renamed]
    | _ => rfl
  | function callable es =>
    cases w with
    | function callable' fs =>
      have hentries : eqEntries (es.renamed s (renamed s)).toList (fs.renamed s (renamed s)) =
          eqEntries es.toList fs :=
        eqEntries_renamed hinj es.toList fs (symbolsOfEntries_subset.mp hv)
          (symbolsOfEntries_subset.mp hw)
      rw [renamed_function, renamed_function, eq_function, eq_function, hentries,
        Entries.size_renamed, Entries.size_renamed]
    | _ => rfl
  | _ => cases w <;> rfl

/-- Lists of values are as equal as they were. -/
theorem eqItems_renamed (hinj : S.InjOn s) (xs ys : List Value) (hxs : ∀ x ∈ xs, x.symbols ⊆ S)
    (hys : ∀ y ∈ ys, y.symbols ⊆ S) :
    eqItems (renamedItems s xs) (renamedItems s ys) = eqItems xs ys := by
  cases xs with
  | nil => cases ys <;> rfl
  | cons x xs =>
    cases ys with
    | nil => rfl
    | cons y ys =>
      obtain ⟨hx, hxs⟩ := List.forall_mem_cons.mp hxs
      obtain ⟨hy, hys⟩ := List.forall_mem_cons.mp hys
      have hfirst := eq_renamed hinj x y hx hy
      have hrest := eqItems_renamed hinj xs ys hxs hys
      simp only [renamedItems, eqItems, hfirst, hrest]

/-- Entries are stored, with equal values, among as many of the others as they were. -/
theorem eqEntries_renamed (hinj : S.InjOn s) (es : List (PropertyKey × Value)) (fs : Entries Value)
    (hes : ∀ entry ∈ es, entry.1.symbols ⊆ S ∧ entry.2.symbols ⊆ S)
    (hfs : ∀ entry ∈ fs.toList, entry.1.symbols ⊆ S ∧ entry.2.symbols ⊆ S) :
    eqEntries (es.map fun entry => (entry.1.renamed s, entry.2.renamed s))
      (fs.renamed s (renamed s)) = eqEntries es fs := by
  cases es with
  | nil => rfl
  | cons entry es =>
    obtain ⟨key, x⟩ := entry
    obtain ⟨⟨hkey, hx⟩, hes⟩ := List.forall_mem_cons.mp hes
    have hkeys := fun entry hentry => (hfs entry hentry).1
    have hget := Entries.get?_renamed hinj hkeys hkey (renamed s)
    have hrest := eqEntries_renamed hinj es fs hes hfs
    simp only [List.map_cons, eqEntries, hget, hrest]
    congr 1
    cases hy : fs.get? key with
    | none => rfl
    | some y =>
      exact eq_renamed hinj x y hx (hfs _ (Entries.mem_of_get? hy)).2

end

end Value

-- ════════════════════════════════════════════════════════════════════════
-- Descriptors and failures
-- ════════════════════════════════════════════════════════════════════════

namespace Descriptor

mutual

/-- The symbols that occur in a descriptor, as literals or as keys. Guards are not looked into. -/
def symbols : Descriptor → Set Symbol
  | primitive _ | guard _ => ∅
  | literal a => {a}
  | arrayOf item => symbols item
  | shape ⟨fields⟩ => symbolsOfFields fields
  | union members | intersection members => symbolsOfMembers members

/-- The symbols that occur in a list of descriptors. -/
def symbolsOfMembers : List Descriptor → Set Symbol
  | [] => ∅
  | d :: ds => symbols d ∪ symbolsOfMembers ds

/-- The symbols that occur in a list of fields. -/
def symbolsOfFields : List (PropertyKey × Descriptor) → Set Symbol
  | [] => ∅
  | (key, d) :: es => key.symbols ∪ symbols d ∪ symbolsOfFields es

end

mutual

/-- The descriptor with other symbols in place of its own. Guards stay as they are. -/
def renamed (s : Symbol → Symbol) : Descriptor → Descriptor
  | primitive p => primitive p
  | literal a => literal (s a)
  | guard g => guard g
  | arrayOf item => arrayOf (renamed s item)
  | shape ⟨fields⟩ => shape ⟨renamedFields s fields⟩
  | union members => union (renamedMembers s members)
  | intersection members => intersection (renamedMembers s members)

/-- The members of a list with other symbols in place of their own. -/
def renamedMembers (s : Symbol → Symbol) : List Descriptor → List Descriptor
  | [] => []
  | d :: ds => renamed s d :: renamedMembers s ds

/-- The fields of a list with other symbols in place of their own. -/
def renamedFields (s : Symbol → Symbol) :
    List (PropertyKey × Descriptor) → List (PropertyKey × Descriptor)
  | [] => []
  | (key, d) :: es => (key.renamed s, renamed s d) :: renamedFields s es

end

end Descriptor

/-- The same failure of the renamed value and descriptor, at the renamed place. Only the texts can
    tell the two from each other. -/
inductive Failure.RenamedBy (s : Symbol → Symbol) : Failure → Failure → Prop
  | wrongType (p : Path) (d : Descriptor) (v : Value) :
      RenamedBy s (.wrongType p d v) (.wrongType (p.renamed s) (d.renamed s) (v.renamed s))
  | absent (p : Path) (d : Descriptor) :
      RenamedBy s (.absent p d) (.absent (p.renamed s) (d.renamed s))
  | fault (f : Fault) : RenamedBy s (.fault f) (.fault (f.renamed s))

end Conform
