import Conform.Descriptor.Basic

/-!
# The structure of descriptors

What a descriptor holds, apart from any value: the guards that stand in it and how deeply it is
nested. The height of a descriptor is the depth that an evaluation of it can reach without the help
of a guard.

## Main definitions

- `Descriptor.AllGuards` — every guard of a descriptor has a property
- `Descriptor.GuardFree` — no guard stands in a descriptor
- `Descriptor.height` — the nesting height
- `Combinator.of` — the union or intersection of some members
- `Guard.ofTest` — a guard that is a plain test of the value

## Main results

- `Descriptor.height_lt_of_mem_of`, `Descriptor.height_lt_of_mem_fields` — parts are lower than
  the whole
-/

namespace Conform

/-- A guard that is a plain test of the value. -/
def Guard.ofTest (name : String) (test : Value → Bool) : Guard Descriptor :=
  ⟨some name, none, fun v _ => .answer (.ok (test v))⟩

/-- The union or the intersection of some members. -/
def Combinator.of : Combinator → List Descriptor → Descriptor
  | union => .union
  | intersection => .intersection

namespace Descriptor

-- ════════════════════════════════════════════════════════════════════════
-- Guards
-- ════════════════════════════════════════════════════════════════════════

/-- Every guard that stands in a descriptor has a property. Descriptors that a guard asks about are
    not part of it. -/
inductive AllGuards (P : Guard Descriptor → Prop) : Descriptor → Prop
  | primitive (p : Primitive) : AllGuards P (primitive p)
  | literal (s : Symbol) : AllGuards P (literal s)
  | guard {g : Guard Descriptor} (h : P g) : AllGuards P (guard g)
  | arrayOf {item : Descriptor} (h : AllGuards P item) : AllGuards P (arrayOf item)
  | shape {fields : Entries Descriptor} (h : ∀ entry ∈ fields.toList, AllGuards P entry.2) :
      AllGuards P (shape fields)
  | union {members : List Descriptor} (h : ∀ member ∈ members, AllGuards P member) :
      AllGuards P (union members)
  | intersection {members : List Descriptor} (h : ∀ member ∈ members, AllGuards P member) :
      AllGuards P (intersection members)

/-- No guard stands in a descriptor. -/
def GuardFree (d : Descriptor) : Prop := d.AllGuards fun _ => False

section AllGuards

variable {P : Guard Descriptor → Prop}

/-- A property of the guards may be weakened. -/
theorem AllGuards.imp {Q : Guard Descriptor → Prop} {d : Descriptor} (h : d.AllGuards P)
    (hPQ : ∀ g, P g → Q g) : d.AllGuards Q := by
  induction h with
  | primitive p => exact .primitive p
  | literal s => exact .literal s
  | guard hg => exact .guard (hPQ _ hg)
  | arrayOf _ ih => exact .arrayOf ih
  | shape _ ih => exact .shape ih
  | union _ ih => exact .union ih
  | intersection _ ih => exact .intersection ih

/-- Where there is no guard, every guard has any property. -/
theorem GuardFree.allGuards {d : Descriptor} (h : d.GuardFree) : d.AllGuards P :=
  AllGuards.imp h fun _ hfalse => hfalse.elim

@[simp] theorem allGuards_primitive (p : Primitive) : AllGuards P (.primitive p) :=
  .primitive p

@[simp] theorem allGuards_literal (s : Symbol) : AllGuards P (.literal s) := .literal s

@[simp] theorem allGuards_guard {g : Guard Descriptor} : AllGuards P (.guard g) ↔ P g :=
  ⟨fun | .guard h => h, .guard⟩

@[simp] theorem allGuards_arrayOf {item : Descriptor} :
    AllGuards P (.arrayOf item) ↔ AllGuards P item :=
  ⟨fun | .arrayOf h => h, .arrayOf⟩

@[simp] theorem allGuards_shape {fields : Entries Descriptor} :
    AllGuards P (.shape fields) ↔ ∀ entry ∈ fields.toList, AllGuards P entry.2 :=
  ⟨fun | .shape h => h, .shape⟩

@[simp] theorem allGuards_union {members : List Descriptor} :
    AllGuards P (.union members) ↔ ∀ member ∈ members, AllGuards P member :=
  ⟨fun | .union h => h, .union⟩

@[simp] theorem allGuards_intersection {members : List Descriptor} :
    AllGuards P (.intersection members) ↔ ∀ member ∈ members, AllGuards P member :=
  ⟨fun | .intersection h => h, .intersection⟩

@[simp] theorem allGuards_of (c : Combinator) {members : List Descriptor} :
    AllGuards P (c.of members) ↔ ∀ member ∈ members, AllGuards P member := by
  cases c with
  | union => exact allGuards_union
  | intersection => exact allGuards_intersection

end AllGuards

-- ════════════════════════════════════════════════════════════════════════
-- Height
-- ════════════════════════════════════════════════════════════════════════

mutual

/-- The nesting height: how many levels stand below a descriptor. -/
def height : Descriptor → Nat
  | primitive _ | literal _ | guard _ => 0
  | arrayOf item => height item + 1
  | shape ⟨fields⟩ => heightOfFields fields
  | union members | intersection members => heightOfMembers members

/-- The levels that some members make up, their own included. -/
def heightOfMembers : List Descriptor → Nat
  | [] => 0
  | d :: ds => max (height d + 1) (heightOfMembers ds)

/-- The levels that some fields make up, their own included. -/
def heightOfFields : List (PropertyKey × Descriptor) → Nat
  | [] => 0
  | (_, d) :: es => max (height d + 1) (heightOfFields es)

end

theorem height_lt_heightOfMembers {d : Descriptor} {members : List Descriptor}
    (h : d ∈ members) : d.height < heightOfMembers members := by
  induction members with
  | nil => cases h
  | cons m ms ih =>
    rw [heightOfMembers]
    rcases List.mem_cons.mp h with rfl | hms
    · omega
    · have := ih hms
      omega

theorem height_lt_heightOfFields {entry : PropertyKey × Descriptor}
    {fields : List (PropertyKey × Descriptor)} (h : entry ∈ fields) :
    entry.2.height < heightOfFields fields := by
  induction fields with
  | nil => cases h
  | cons e es ih =>
    rw [heightOfFields]
    rcases List.mem_cons.mp h with rfl | hes
    · omega
    · have := ih hes
      omega

/-- A member is lower than its union or intersection. -/
theorem height_lt_of_mem_of (c : Combinator) {d : Descriptor} {members : List Descriptor}
    (h : d ∈ members) : d.height < (c.of members).height := by
  cases c <;> exact height_lt_heightOfMembers h

/-- A field is lower than its shape. -/
theorem height_lt_of_mem_fields {entry : PropertyKey × Descriptor} {fields : Entries Descriptor}
    (h : entry ∈ fields.toList) : entry.2.height < (Descriptor.shape fields).height :=
  height_lt_heightOfFields h

/-- An item is lower than its array. -/
theorem height_lt_arrayOf (item : Descriptor) : item.height < (Descriptor.arrayOf item).height := by
  rw [height]
  omega

end Descriptor

end Conform
