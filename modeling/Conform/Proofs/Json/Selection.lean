import Mathlib.Data.List.Nodup
import Conform.Json.Pointer
import Conform.Proofs.Json.Documents
import Conform.Proofs.Text.Separated
import Conform.Proofs.Value.Lookup

/-!
# Selecting a part of a document

A pointer can be followed in a document, before it is made a value, or in the value made of it. Both
find the same: a list has its items under the same numerals as the array made of it, and an object
that has no key twice has the same members as the object made of it, numerals among its keys
included.

## Main definitions

- `Json.Distinct` — no object of a document has a key twice, which reading ensures
- `Json.Pointer.spelt` — the tokens of a pointer, with one kind of escape replaced after the other

## Main results

- `Json.Pointer.tokens?_eq_spelt` — resolving both kinds of escape at once is the same
- `Value.get?_ofJson` — one step in the value is one step in the document
- `Document.selection_agrees_with_lookup` — a pointer finds in the value what it selects
-/

namespace Conform

namespace Json

-- ════════════════════════════════════════════════════════════════════════
-- Pointers
-- ════════════════════════════════════════════════════════════════════════

namespace Pointer

/-- The characters with `char` in place of every tilde that `mark` follows, the mark included. -/
def replaceEscape (mark char : Char) : List Char → List Char
  | c :: d :: cs =>
    if c = '~' ∧ d = mark then char :: replaceEscape mark char cs
    else c :: replaceEscape mark char (d :: cs)
  | cs => cs

/-- The parts of a pointer after its first slash, with `~1` replaced in each and then `~0`. -/
def spelt (pointer : String) : List String :=
  (pointer.toList.splitOn '/').tail.map fun token =>
    String.ofList (replaceEscape '0' '~' (replaceEscape '1' '/' token))

variable {mark char c d : Char} {cs : List Char}

theorem replaceEscape_escape :
    replaceEscape mark char ('~' :: mark :: cs) = char :: replaceEscape mark char cs := by
  rw [replaceEscape, if_pos ⟨rfl, rfl⟩]

theorem replaceEscape_cons (h : ¬(c = '~' ∧ cs.head? = some mark)) :
    replaceEscape mark char (c :: cs) = c :: replaceEscape mark char cs := by
  cases cs with
  | nil => rfl
  | cons d cs =>
    rw [List.head?_cons, Option.some.injEq] at h
    rw [replaceEscape, if_neg h]

/-- What is in front after the replacement was there before, unless the replacement put it there. -/
theorem head?_of_replaceEscape (h : (replaceEscape mark char cs).head? = some d) (hd : d ≠ char) :
    cs.head? = some d := by
  match cs with
  | [] => cases h
  | [c] => exact h
  | c :: e :: cs =>
    rw [replaceEscape] at h
    split at h
    next => exact absurd (Option.some.inj h).symm hd
    next => exact h

/-- Both kinds of escape may be resolved at once, since no replacement of `~1` makes a `~0`. -/
theorem unescape_eq (cs : List Char) :
    unescape cs = replaceEscape '0' '~' (replaceEscape '1' '/' cs) := by
  fun_induction unescape cs with
  | case1 cs ih =>
    have hkept : replaceEscape '1' '/' ('~' :: '0' :: cs) =
        '~' :: '0' :: replaceEscape '1' '/' cs := by
      rw [replaceEscape_cons (by simp), replaceEscape_cons (by simp)]
    rw [hkept, replaceEscape_escape, ih]
  | case2 cs ih => rw [replaceEscape_escape, replaceEscape_cons (by simp), ih]
  | case3 c cs hzero hone ih =>
    have hmark {mark : Char} (h : c = '~' ∧ cs.head? = some mark) : cs = mark :: cs.tail :=
      (List.cons_head?_tail h.2).symm
    have hone' : ¬(c = '~' ∧ cs.head? = some '1') := fun h => hone _ h.1 (hmark h)
    have hzero' : ¬(c = '~' ∧ (replaceEscape '1' '/' cs).head? = some '0') := by
      rintro ⟨hc, h⟩
      have hhead := head?_of_replaceEscape h (by decide)
      exact hzero _ hc (hmark ⟨hc, hhead⟩)
    rw [replaceEscape_cons hone', replaceEscape_cons hzero', ih]
  | case4 => rfl

theorem tokens?_eq_spelt {pointer : String} (h : pointer.toList.head? = some '/') :
    tokens? pointer = some (spelt pointer) := by
  obtain ⟨cs, hcs⟩ : ∃ cs, pointer.toList = '/' :: cs :=
    ⟨_, (List.cons_head?_tail h).symm⟩
  have hsplit : ('/' :: cs).splitOn '/' = [] :: cs.splitOn '/' := by
    rw [← Separated.split_eq_splitOn, ← Separated.split_eq_splitOn, Separated.split, if_pos rfl]
  rw [tokens?, hcs, spelt, hcs, hsplit, List.tail_cons, ← Separated.split_eq_splitOn]
  apply congrArg some
  apply List.map_congr_left
  intro token _
  rw [unescape_eq]

theorem tokens?_of_head?_ne {pointer : String} (hne : pointer ≠ "")
    (h : pointer.toList.head? ≠ some '/') : tokens? pointer = none := by
  rw [tokens?]
  split
  next hnil => exact absurd (String.toList_eq_nil_iff.mp hnil) hne
  next cs hcs => exact absurd (hcs ▸ rfl) h
  next => rfl

end Pointer

theorem at?_of_slash (j : Json) {pointer : String} (h : pointer.toList.head? = some '/') :
    j.at? pointer = (Pointer.spelt pointer).foldlM step? j := by
  rw [at?, Pointer.tokens?_eq_spelt h, Option.bind_some]

theorem at?_of_head?_ne (j : Json) {pointer : String} (hne : pointer ≠ "")
    (h : pointer.toList.head? ≠ some '/') : j.at? pointer = none := by
  rw [at?, Pointer.tokens?_of_head?_ne hne h, Option.bind_none]

-- ════════════════════════════════════════════════════════════════════════
-- Documents without repeated keys
-- ════════════════════════════════════════════════════════════════════════

/-- No object of the document has a key twice. -/
inductive Distinct : Json → Prop
  | null : Distinct .null
  | bool (b : Bool) : Distinct (.bool b)
  | num (n : Num) : Distinct (.num n)
  | str (s : String) : Distinct (.str s)
  | arr {items : List Json} (hitems : ∀ j ∈ items, Distinct j) : Distinct (.arr items)
  | obj {members : List (String × Json)} (hkeys : (members.map Prod.fst).Nodup)
      (hmembers : ∀ m ∈ members, Distinct m.2) : Distinct (.obj members)

variable {key : String} {item : Json} {members : List (String × Json)}

theorem map_fst_insertMember : (insertMember key item members).map Prod.fst =
    if key ∈ members.map Prod.fst then members.map Prod.fst
    else members.map Prod.fst ++ [key] := by
  induction members with
  | nil => rfl
  | cons m members ih =>
    obtain ⟨k, j⟩ := m
    rw [insertMember, List.map_cons]
    by_cases hk : k = key
    · subst hk
      rw [if_pos rfl, if_pos List.mem_cons_self, List.map_cons]
    · have hmem : key ∈ k :: members.map Prod.fst ↔ key ∈ members.map Prod.fst := by
        rw [List.mem_cons, or_iff_right (Ne.symm hk)]
      rw [if_neg hk, List.map_cons, ih]
      simp only [hmem]
      split <;> rfl

theorem nodup_insertMember (h : (members.map Prod.fst).Nodup) :
    ((insertMember key item members).map Prod.fst).Nodup := by
  rw [map_fst_insertMember]
  split
  next => exact h
  next hnew =>
    rw [← List.concat_eq_append]
    exact h.concat hnew

theorem distinct_insertMember (hitem : item.Distinct) (h : ∀ m ∈ members, m.2.Distinct) :
    ∀ m ∈ insertMember key item members, m.2.Distinct := by
  induction members with
  | nil =>
    intro m hm
    obtain rfl := List.mem_singleton.mp hm
    exact hitem
  | cons first members ih =>
    obtain ⟨hfirst, hrest⟩ := List.forall_mem_cons.mp h
    rw [insertMember]
    split
    next => exact List.forall_mem_cons.mpr ⟨hitem, hrest⟩
    next => exact List.forall_mem_cons.mpr ⟨hfirst, ih hrest⟩

/-- Members stay distinct, and without repetition, as others are merged into them. -/
theorem distinct_mergeMembers (h : ∀ m ∈ members, m.2.Distinct) :
    (Json.obj (mergeMembers members)).Distinct := by
  suffices hfold : ∀ acc : List (String × Json), (acc.map Prod.fst).Nodup →
      (∀ m ∈ acc, m.2.Distinct) →
      (Json.obj (members.foldl (fun acc m => insertMember m.1 m.2 acc) acc)).Distinct from
    hfold [] .nil nofun
  induction members with
  | nil => exact fun acc hkeys hacc => .obj hkeys hacc
  | cons m members ih =>
    obtain ⟨hm, hrest⟩ := List.forall_mem_cons.mp h
    intro acc hkeys hacc
    exact ih hrest _ (nodup_insertMember hkeys) (distinct_insertMember hm hacc)

mutual

theorem distinct_merged : ∀ j : Json, j.merged.Distinct
  | .null => .null
  | .bool b => .bool b
  | .num n => .num n
  | .str s => .str s
  | .arr items => .arr (distinct_mergedItems items)
  | .obj members => distinct_mergeMembers (distinct_mergedMembers members)

theorem distinct_mergedItems : ∀ items : List Json, ∀ j ∈ mergedItems items, j.Distinct
  | [] => nofun
  | j :: js => List.forall_mem_cons.mpr ⟨distinct_merged j, distinct_mergedItems js⟩

theorem distinct_mergedMembers :
    ∀ members : List (String × Json), ∀ m ∈ mergedMembers members, m.2.Distinct
  | [] => nofun
  | (_, j) :: ms => List.forall_mem_cons.mpr ⟨distinct_merged j, distinct_mergedMembers ms⟩

end

theorem mem_of_lookup (h : members.lookup key = some item) : (key, item) ∈ members := by
  obtain ⟨before, after, rfl, -⟩ := List.lookup_eq_some_iff.mp h
  exact List.mem_append_right before List.mem_cons_self

theorem Distinct.step? {j part : Json} (h : j.Distinct) {token : String}
    (hstep : j.step? token = some part) : part.Distinct := by
  cases h with
  | arr hitems =>
    obtain ⟨i, -, hi⟩ := Option.bind_eq_some_iff.mp hstep
    exact hitems part (List.mem_of_getElem? hi)
  | obj hkeys hmembers => exact hmembers _ (mem_of_lookup hstep)
  | _ => cases hstep

end Json

-- ════════════════════════════════════════════════════════════════════════
-- Values of documents
-- ════════════════════════════════════════════════════════════════════════

namespace Value

theorem ofItems_eq_map (items : List Json) : ofItems items = items.map ofJson := by
  induction items with
  | nil => rfl
  | cons j js ih => rw [ofItems, ih, List.map_cons]

theorem map_fst_ofMembers (members : List (String × Json)) :
    (ofMembers members).map Prod.fst = (members.map Prod.fst).map PropertyKey.string := by
  induction members with
  | nil => rfl
  | cons m members ih => rw [ofMembers, List.map_cons, ih, List.map_cons, List.map_cons]

theorem get?_ofMembers_string (members : List (String × Json)) (token : String) :
    (⟨ofMembers members⟩ : Entries Value).get? (.string token) =
      (members.lookup token).map ofJson := by
  induction members with
  | nil => rfl
  | cons m members ih =>
    obtain ⟨k, j⟩ := m
    rw [ofMembers, Entries.get?_cons, ih, List.lookup_cons]
    by_cases hk : token = k
    · rw [if_pos (congrArg _ hk), beq_iff_eq.mpr hk]
      rfl
    · rw [if_neg fun h => hk (PropertyKey.string.inj h), beq_eq_false_iff_ne.mpr hk]

theorem get?_ofMembers_index (members : List (String × Json)) (i : Nat) :
    (⟨ofMembers members⟩ : Entries Value).get? (.index i) = none := by
  rw [Entries.get?_eq_none_iff]
  show PropertyKey.index i ∉ (ofMembers members).map Prod.fst
  rw [map_fst_ofMembers]
  simp

/-- Members are stored under strings alone, so the twin of a token never finds one. -/
theorem property?_ofList_ofMembers {members : List (String × Json)}
    (hkeys : (members.map Prod.fst).Nodup) (token : String) :
    (Entries.ofList (ofMembers members)).property? (.string token) =
      (members.lookup token).map ofJson := by
  have hnodup : ((ofMembers members).map Prod.fst).Nodup := by
    rw [map_fst_ofMembers]
    exact hkeys.map fun _ _ => PropertyKey.string.inj
  have hget (key : PropertyKey) : (Entries.ofList (ofMembers members)).get? key =
      (⟨ofMembers members⟩ : Entries Value).get? key := by
    rw [Entries.ofList, Entries.get?_insertAll _ hnodup]
    exact Option.or_none
  have htwin : (PropertyKey.string token).twin?.bind
      (Entries.ofList (ofMembers members)).get? = none := by
    rw [PropertyKey.twin?, Option.bind_eq_none_iff]
    rintro key hkey
    obtain ⟨i, -, rfl⟩ := Option.map_eq_some_iff.mp hkey
    rw [hget, get?_ofMembers_index]
  rw [Entries.property?_eq, htwin, Option.or_none, hget, get?_ofMembers_string]

/-- Looking up a token in the value of a document finds the value of what the token selects. -/
theorem get?_ofJson {j : Json} (h : j.Distinct) (token : String) :
    (ofJson j).get? (.string token) = (j.step? token).map ofJson := by
  cases h with
  | @arr items hitems =>
    rw [ofJson, ofItems_eq_map, get?, Json.step?, PropertyKey.asIndex?, Option.map_bind]
    congr 1
    funext i
    exact List.getElem?_map
  | @obj members hkeys hmembers =>
    rw [ofJson, get?, Json.step?, property?_ofList_ofMembers hkeys]
  | _ => rfl

theorem foldlM_get?_ofJson {j : Json} (h : j.Distinct) (tokens : List String) :
    tokens.foldlM (fun (v : Value) token => v.get? (.string token)) (ofJson j) =
      (tokens.foldlM Json.step? j).map ofJson := by
  induction tokens generalizing j with
  | nil => rfl
  | cons token tokens ih =>
    rw [List.foldlM_cons, List.foldlM_cons, get?_ofJson h]
    cases hstep : j.step? token with
    | none => rfl
    | some part => exact ih (h.step? hstep)

end Value

namespace Document

variable {bytes : List UInt8}

theorem read_eq_error_iff {e : Json.PathError} {pointer : Option String} :
    read bytes pointer = .error e ↔ Json.read bytes = .error e := by
  rw [read]
  cases Json.read bytes <;> simp [Except.map]

/-- A pointer selects from a text what it finds in the value of the whole text. -/
theorem selection_agrees_with_lookup (bytes : List UInt8) (p : String) :
    (∀ e, read bytes (some p) = .error e ↔ read bytes none = .error e) ∧
    read bytes none ≠ .ok none ∧
    ∀ v, read bytes none = .ok (some v) →
      (p = "" → read bytes (some p) = .ok (some v)) ∧
      (p ≠ "" → p.toList.head? ≠ some '/' → read bytes (some p) = .ok none) ∧
      (p.toList.head? = some '/' → read bytes (some p) =
        .ok ((Json.Pointer.spelt p).foldlM
          (fun (part : Value) token => part.get? (.string token)) v)) := by
  refine ⟨fun e => read_eq_error_iff.trans read_eq_error_iff.symm, ?_, ?_⟩
  · rintro h
    obtain ⟨j, -, hnone⟩ := Json.map_eq_ok_iff.mp h
    cases hnone
  · intro v hv
    obtain ⟨j, hj, hvalue⟩ := Json.map_eq_ok_iff.mp hv
    obtain rfl := Option.some.inj hvalue
    have hread (pointer : String) :
        read bytes (some pointer) = .ok ((j.at? pointer).map Value.ofJson) := by
      rw [read, hj]
      rfl
    have hdistinct : j.Distinct := by
      obtain ⟨written, rest, -, rfl⟩ := Json.read_eq_ok_iff.mp hj
      exact Json.distinct_merged written
    refine ⟨?_, ?_, ?_⟩
    · rintro rfl
      rw [hread]
      rfl
    · intro hne hslash
      rw [hread, Json.at?_of_head?_ne j hne hslash]
      rfl
    · intro hslash
      rw [hread, Json.at?_of_slash j hslash, Value.foldlM_get?_ofJson hdistinct]

/-- `{"0":[null,{"a/~1":true}]}`: a numeral as a key, a list, and a key that a pointer escapes. -/
def numeralAndEscapes : List UInt8 :=
  [123, 34, 48, 34, 58, 91, 110, 117, 108, 108, 44, 123, 34, 97, 47, 126, 49, 34, 58, 116, 114, 117,
    101, 125, 93, 125]

theorem selection_agrees_on_numeralAndEscapes :
    read numeralAndEscapes none = .ok (some (.object ⟨[(.string "0",
      .array [.null, .object ⟨[(.string "a/~1", .bool true)]⟩])]⟩)) ∧
    read numeralAndEscapes (some "/0/1/a~1~01") = .ok (some (.bool true)) := by
  have hwhole : read numeralAndEscapes none = .ok (some (.object ⟨[(.string "0",
      .array [.null, .object ⟨[(.string "a/~1", .bool true)]⟩])]⟩)) := rfl
  obtain ⟨-, -, hparts⟩ := selection_agrees_with_lookup numeralAndEscapes "/0/1/a~1~01"
  obtain ⟨-, -, hwalk⟩ := hparts _ hwhole
  exact ⟨hwhole, (hwalk (by decide)).trans rfl⟩

end Document

end Conform
