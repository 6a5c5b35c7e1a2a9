import Conform.Entries

/-!
# Storing entries

Storing under keys that are there replaces items and leaves the order as it is; what is stored under
other keys comes after, in the order in which it is stored.

## Main results

- `Entries.insertAll_cons_of_not_mem` — an entry under none of the keys stays in front
- `Entries.insertAll_of_same_keys` — items under the same keys take the place of what is there
- `Entries.Keyed.get?_eq_some_iff` — what is found among entries
- `Entries.get?_insertAll` — what is found after some items have been stored
- `Entries.keys_insertAll` — the order of the keys then
-/

namespace Conform.Entries

universe u

variable {α : Type u}

theorem insert_cons_self (key : PropertyKey) (x y : α) (rest : List (PropertyKey × α)) :
    (⟨(key, x) :: rest⟩ : Entries α).insert key y = ⟨(key, y) :: rest⟩ := by
  rw [insert, insert.go, if_pos rfl]

theorem insert_cons_of_ne {key other : PropertyKey} (x y : α) (rest : List (PropertyKey × α))
    (h : other ≠ key) :
    (⟨(other, x) :: rest⟩ : Entries α).insert key y =
      ⟨(other, x) :: ((⟨rest⟩ : Entries α).insert key y).toList⟩ := by
  rw [insert, insert.go, if_neg h]
  rfl

theorem insertAll_cons (es : Entries α) (key : PropertyKey) (x : α)
    (items : List (PropertyKey × α)) :
    es.insertAll ((key, x) :: items) = (es.insert key x).insertAll items := rfl

theorem insertAll_cons_of_not_mem {key : PropertyKey} (x : α) {rest items : List (PropertyKey × α)}
    (h : key ∉ items.map Prod.fst) :
    (⟨(key, x) :: rest⟩ : Entries α).insertAll items =
      ⟨(key, x) :: ((⟨rest⟩ : Entries α).insertAll items).toList⟩ := by
  induction items generalizing rest with
  | nil => rfl
  | cons entry items ih =>
    obtain ⟨other, y⟩ := entry
    rw [List.map_cons, List.mem_cons, not_or] at h
    rw [insertAll_cons, insert_cons_of_ne x y rest h.1, insertAll_cons]
    exact ih h.2

theorem insertAll_of_same_keys {items base : List (PropertyKey × α)}
    (hkeys : items.map Prod.fst = base.map Prod.fst) (hnodup : (items.map Prod.fst).Nodup) :
    (⟨base⟩ : Entries α).insertAll items = ⟨items⟩ := by
  induction items generalizing base with
  | nil =>
    obtain rfl : base = [] := List.map_eq_nil_iff.mp hkeys.symm
    rfl
  | cons entry items ih =>
    obtain ⟨hfresh, hrest⟩ := List.nodup_cons.mp hnodup
    match base, hkeys with
    | (key, x) :: base, hkeys =>
      obtain ⟨rfl, htail⟩ := List.cons.inj hkeys
      -- once it is replaced, the first entry is left alone
      rw [insertAll_cons, insert_cons_self, insertAll_cons_of_not_mem _ hfresh, ih htail hrest]

-- ════════════════════════════════════════════════════════════════════════
-- What is found
-- ════════════════════════════════════════════════════════════════════════

theorem get?_cons (key other : PropertyKey) (x : α) (rest : List (PropertyKey × α)) :
    (⟨(key, x) :: rest⟩ : Entries α).get? other =
      if other = key then some x else (⟨rest⟩ : Entries α).get? other := by
  by_cases h : other = key
  · rw [if_pos h, get?, List.lookup_cons, beq_iff_eq.mpr h]
  · rw [if_neg h, get?, List.lookup_cons, beq_eq_false_iff_ne.mpr h]
    rfl

theorem get?_eq_none_iff {es : Entries α} {key : PropertyKey} :
    es.get? key = none ↔ key ∉ es.keys := by
  rw [get?, List.lookup_eq_none_iff, keys, List.mem_map]
  constructor
  · rintro h ⟨entry, hentry, rfl⟩
    exact absurd rfl (bne_iff_ne.mp (h entry hentry))
  · intro h entry hentry
    rw [bne_iff_ne]
    rintro rfl
    exact h ⟨entry, hentry, rfl⟩

theorem mem_of_get? {es : Entries α} {key : PropertyKey} {x : α} (h : es.get? key = some x) :
    (key, x) ∈ es.toList := by
  obtain ⟨items⟩ := es
  induction items with
  | nil => cases h
  | cons entry rest ih =>
    rw [get?_cons] at h
    by_cases hkey : key = entry.1
    · rw [if_pos hkey] at h
      obtain rfl := Option.some.inj h
      exact hkey ▸ List.mem_cons_self
    · rw [if_neg hkey] at h
      exact List.mem_cons_of_mem entry (ih h)

/-- Where each key is stored once, the entries are what is found. -/
theorem Keyed.get?_eq_some_iff {es : Entries α} (hes : es.Keyed) {key : PropertyKey} {x : α} :
    es.get? key = some x ↔ (key, x) ∈ es.toList := by
  obtain ⟨items⟩ := es
  induction items with
  | nil => exact ⟨fun h => (nomatch h), fun h => (nomatch h)⟩
  | cons entry items ih =>
    obtain ⟨k, y⟩ := entry
    obtain ⟨hfresh, hrest⟩ := List.nodup_cons.mp hes
    rw [get?_cons, List.mem_cons]
    by_cases hkey : key = k
    · subst hkey
      have hlater : (key, x) ∉ items := fun h => hfresh (List.mem_map.mpr ⟨_, h, rfl⟩)
      simp [hlater, eq_comm]
    · rw [if_neg hkey, ih hrest]
      simp [hkey]

/-- Storing an item changes what is found under its key, and nothing else. -/
theorem get?_insert (es : Entries α) (key other : PropertyKey) (x : α) :
    (es.insert key x).get? other = if other = key then some x else es.get? other := by
  obtain ⟨items⟩ := es
  induction items with
  | nil => exact get?_cons key other x []
  | cons entry items ih =>
    obtain ⟨k, y⟩ := entry
    by_cases hk : k = key
    · subst hk
      rw [insert_cons_self, get?_cons, get?_cons]
      split <;> rfl
    · rw [insert_cons_of_ne y x items hk, get?_cons, get?_cons, ih]
      by_cases hother : other = k
      · subst hother
        rw [if_pos rfl, if_neg hk, if_pos rfl]
      · rw [if_neg hother, if_neg hother]

/-- Of items that are stored under different keys each is found, and what was there before is
    found under the other keys. -/
theorem get?_insertAll (es : Entries α) {items : List (PropertyKey × α)}
    (hnodup : (items.map Prod.fst).Nodup) (key : PropertyKey) :
    (es.insertAll items).get? key = ((⟨items⟩ : Entries α).get? key).or (es.get? key) := by
  induction items generalizing es with
  | nil => rfl
  | cons entry items ih =>
    obtain ⟨k, x⟩ := entry
    obtain ⟨hfresh, hrest⟩ := List.nodup_cons.mp hnodup
    rw [insertAll_cons, ih (es.insert k x) hrest, get?_insert, get?_cons]
    by_cases hkey : key = k
    · -- no later item is stored under the same key
      subst hkey
      have hnone : (⟨items⟩ : Entries α).get? key = none := by
        rw [get?, List.lookup_eq_none_iff]
        intro later hlater
        rw [bne_iff_ne]
        rintro rfl
        exact hfresh (List.mem_map.mpr ⟨later, hlater, rfl⟩)
      rw [hnone, if_pos rfl, if_pos rfl]
      rfl
    · rw [if_neg hkey, if_neg hkey]

-- ════════════════════════════════════════════════════════════════════════
-- The order of the keys
-- ════════════════════════════════════════════════════════════════════════

theorem keys_insert (es : Entries α) (key : PropertyKey) (x : α) :
    (es.insert key x).keys = if key ∈ es.keys then es.keys else es.keys ++ [key] := by
  obtain ⟨items⟩ := es
  induction items with
  | nil => rfl
  | cons entry items ih =>
    obtain ⟨k, y⟩ := entry
    have hkeys : (⟨(k, y) :: items⟩ : Entries α).keys = k :: (⟨items⟩ : Entries α).keys := rfl
    by_cases hk : k = key
    · subst hk
      rw [insert_cons_self, hkeys, if_pos List.mem_cons_self]
      rfl
    · rw [insert_cons_of_ne y x items hk, hkeys]
      show k :: ((⟨items⟩ : Entries α).insert key x).keys = _
      have hne : key ≠ k := fun h => hk h.symm
      rw [ih]
      by_cases hmem : key ∈ (⟨items⟩ : Entries α).keys
      · rw [if_pos hmem, if_pos (List.mem_cons_of_mem k hmem)]
      · rw [if_neg hmem, if_neg fun h => hmem (List.mem_of_ne_of_mem hne h), List.cons_append]

/-- Items that are stored under different keys keep the order of what is there, and those under
    keys that are not there come after, in their own order. -/
theorem keys_insertAll (es : Entries α) {items : List (PropertyKey × α)}
    (hnodup : (items.map Prod.fst).Nodup) :
    (es.insertAll items).keys =
      es.keys ++ (items.map Prod.fst).filter fun key => key ∉ es.keys := by
  induction items generalizing es with
  | nil =>
    rw [List.map_nil, List.filter_nil, List.append_nil]
    rfl
  | cons entry items ih =>
    obtain ⟨k, x⟩ := entry
    obtain ⟨hfresh, hrest⟩ := List.nodup_cons.mp hnodup
    rw [insertAll_cons, ih (es.insert k x) hrest, keys_insert, List.map_cons]
    by_cases hk : k ∈ es.keys
    · rw [if_pos hk, List.filter_cons_of_neg (by simp [hk])]
    · -- the key is new, and no later item asks for it again
      have hlater : ∀ key ∈ items.map Prod.fst,
          decide (key ∉ es.keys ++ [k]) = decide (key ∉ es.keys) := by
        intro key hkey
        have hne : key ≠ k := fun h => hfresh (h ▸ hkey)
        simp [hne]
      rw [if_neg hk, List.filter_cons_of_pos (by simp [hk]), List.filter_congr hlater,
        List.append_assoc, List.singleton_append]

/-- Each key stays stored once. -/
theorem Keyed.insertAll {es : Entries α} (hes : es.Keyed) {items : List (PropertyKey × α)}
    (hnodup : (items.map Prod.fst).Nodup) : (es.insertAll items).Keyed := by
  rw [Keyed, keys_insertAll es hnodup]
  refine List.nodup_append.mpr ⟨hes, hnodup.filter _, ?_⟩
  rintro key hkey _ hnew rfl
  simp [hkey] at hnew

end Conform.Entries
