import Mathlib.Data.List.Forall2

/-!
# Rows of texts

Things whose texts are told apart from what follows them can be written in a row with a separator
between them, and the row is told apart from what follows it in the same way, provided that no
separator can follow the row. Things are told up to a relation, since different things may have one
text.

## Main definitions

- `Row.Told` — a thing is told by its text, whatever may follow it

## Main results

- `Row.Told.row` — a row of told things is told
- `Row.intercalate_flatten` — rows in a row are one row
-/

namespace Conform.Row

variable {α : Type} {P : α → Prop} {R : α → α → Prop} {text : α → List Char}
variable {Ends RowEnds : List Char → Prop} {separator : List Char}

/-- Among the things in `P`, those with the text of `x` are related to `x`, and where the text of
    `x` ends is certain, as long as it is followed by what may follow it. -/
def Told (P : α → Prop) (R : α → α → Prop) (text : α → List Char) (Ends : List Char → Prop)
    (x : α) : Prop :=
  ∀ y rest rest', P y → Ends rest → Ends rest' → text x ++ rest = text y ++ rest' →
    R x y ∧ rest = rest'

/-- A row of told things is told. The first things of two rows are told apart from what follows
    them; if one row ends there, so does the other, since no separator can follow a row. -/
theorem Told.row (hseparator : ∀ cs, Ends (separator ++ cs)) (hends : ∀ cs, RowEnds cs → Ends cs)
    (hstop : ∀ cs, ¬ RowEnds (separator ++ cs)) {xs : List α} (hne : xs ≠ [])
    (hxs : ∀ x ∈ xs, Told P R text Ends x) :
    Told (fun ys => ys ≠ [] ∧ ∀ y ∈ ys, P y) (List.Forall₂ R)
      (fun xs => separator.intercalate (xs.map text)) RowEnds xs := by
  induction xs with
  | nil => exact absurd rfl hne
  | cons x xs ih =>
    rintro ys rest rest' ⟨hys, hPys⟩ hrest hrest' h
    obtain ⟨y, ys, rfl⟩ := List.exists_cons_of_ne_nil hys
    obtain ⟨hPy, hPys⟩ := List.forall_mem_cons.mp hPys
    obtain ⟨hx, hxs⟩ := List.forall_mem_cons.mp hxs
    cases xs with
    | nil =>
      cases ys with
      | nil =>
        simp only [List.map_cons, List.map_nil, List.intercalate_singleton] at h
        obtain ⟨hxy, hrests⟩ := hx y rest rest' hPy (hends rest hrest) (hends rest' hrest') h
        exact ⟨.cons hxy .nil, hrests⟩
      | cons y' ys =>
        simp only [List.map_cons, List.map_nil, List.intercalate_singleton,
          List.intercalate_cons_cons, List.append_assoc] at h
        obtain ⟨-, hrests⟩ := hx y rest _ hPy (hends rest hrest) (hseparator _) h
        exact absurd (hrests ▸ hrest) (hstop _)
    | cons x' xs =>
      cases ys with
      | nil =>
        simp only [List.map_cons, List.map_nil, List.intercalate_singleton,
          List.intercalate_cons_cons, List.append_assoc] at h
        obtain ⟨-, hrests⟩ := hx y _ rest' hPy (hseparator _) (hends rest' hrest') h
        exact absurd (hrests.symm ▸ hrest') (hstop _)
      | cons y' ys =>
        simp only [List.map_cons, List.intercalate_cons_cons, List.append_assoc] at h
        obtain ⟨hxy, hrests⟩ := hx y _ _ hPy (hseparator _) (hseparator _) h
        obtain ⟨hxys, hends⟩ := ih (List.cons_ne_nil _ _) hxs (y' :: ys) rest rest'
          ⟨List.cons_ne_nil _ _, hPys⟩ hrest hrest' (List.append_cancel_left hrests)
        exact ⟨.cons hxy hxys, hends⟩

/-- Rows in a row, all with the same separator, are one row. -/
theorem intercalate_flatten {s : String} {rows : List (List String)}
    (h : ∀ row ∈ rows, row ≠ []) :
    s.intercalate (rows.map s.intercalate) = s.intercalate rows.flatten := by
  induction rows with
  | nil => rfl
  | cons row rows ih =>
    obtain ⟨hrow, hrows⟩ := List.forall_mem_cons.mp h
    rw [List.map_cons, List.flatten_cons]
    by_cases hnil : rows = []
    · subst hnil
      rw [List.map_nil, String.intercalate_singleton, List.flatten_nil, List.append_nil]
    · have hflat : rows.flatten ≠ [] := by
        obtain ⟨row', rows, rfl⟩ := List.exists_cons_of_ne_nil hnil
        rw [List.flatten_cons]
        exact List.append_ne_nil_of_left_ne_nil (hrows row' List.mem_cons_self) _
      rw [String.intercalate_cons_of_ne_nil (by simpa using hnil), ih hrows,
        String.intercalate_append_of_ne_nil hrow hflat]

end Conform.Row
