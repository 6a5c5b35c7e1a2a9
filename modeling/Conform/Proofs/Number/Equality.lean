import Conform.Number.Layout

/-!
# Numeric equality

Equality of numbers is symmetric and transitive, and only not-a-number differs from itself. Equal
numbers have one text, since only the two zeros are equal and different.

## Main definitions

- `Number.Same` — equal, or not-a-number both of them

## Main results

- `Number.eq_symm`, `Number.eq_trans` — the laws that hold of all numbers
- `Number.eq_self_iff` — the numbers that are equal to themselves
- `Number.text_eq_of_eq` — equal numbers have one text
-/

namespace Conform

theorem Magnitude.eq_of_rank_eq {m n : Magnitude} (h : m.rank = n.rank) : m = n := by
  cases m
  cases n
  simpa using h

namespace Number

variable {a b c : Number}

theorem eq_finite_iff {s t : Bool} {m n : Magnitude} :
    (finite s m).eq (finite t n) = true ↔ m.rank = n.rank ∧ (s = t ∨ m.rank = 0) := by
  simp [eq]

theorem eq_symm (h : a.eq b = true) : b.eq a = true := by
  cases a with
  | nan => cases h
  | infinity s =>
    cases b with
    | infinity t => exact beq_iff_eq.mpr (beq_iff_eq.mp h).symm
    | _ => cases h
  | finite s m =>
    cases b with
    | finite t n =>
      obtain ⟨hrank, hsign⟩ := eq_finite_iff.mp h
      exact eq_finite_iff.mpr ⟨hrank.symm, hsign.imp Eq.symm hrank.symm.trans⟩
    | _ => cases h

theorem eq_trans (h : a.eq b = true) (h' : b.eq c = true) : a.eq c = true := by
  cases b with
  | nan => cases h'
  | infinity s =>
    cases a with
    | infinity r =>
      obtain rfl := beq_iff_eq.mp h
      exact h'
    | _ => cases h
  | finite s m =>
    cases a with
    | finite r l =>
      cases c with
      | finite t n =>
        obtain ⟨hrank, hsign⟩ := eq_finite_iff.mp h
        obtain ⟨hrank', hsign'⟩ := eq_finite_iff.mp h'
        refine eq_finite_iff.mpr ⟨hrank.trans hrank', ?_⟩
        rcases hsign with rfl | hzero
        · exact hsign'.imp id hrank.trans
        · exact .inr hzero
      | _ => cases h'
    | _ => cases h

theorem eq_self_iff : a.eq a = true ↔ ∀ negative payload, a ≠ nan negative payload := by
  cases a with
  | nan negative payload => simp [eq]
  | infinity s => simp [eq]
  | finite s m => simp [eq]

/-- Not-a-number, of whatever sign and payload. -/
def IsNan : Number → Prop
  | nan _ _ => True
  | _ => False

/-- Equal, or not-a-number both of them. -/
def Same (a b : Number) : Prop := a.eq b = true ∨ a.IsNan ∧ b.IsNan

theorem not_isNan_of_eq (h : a.eq b = true) : ¬ a.IsNan := by
  cases a with
  | nan => cases h
  | infinity => exact id
  | finite => exact id

theorem Same.symm (h : a.Same b) : b.Same a := h.imp eq_symm And.symm

theorem Same.trans (h : a.Same b) (h' : b.Same c) : a.Same c := by
  rcases h with h | ⟨ha, hb⟩
  · rcases h' with h' | ⟨hb, -⟩
    · exact .inl (eq_trans h h')
    · exact absurd hb (not_isNan_of_eq (eq_symm h))
  · exact .inr ⟨ha, (h'.resolve_left fun h' => not_isNan_of_eq h' hb).2⟩

theorem text_eq_of_eq (h : a.eq b = true) : a.text = b.text := by
  cases a with
  | nan => cases h
  | infinity s =>
    cases b with
    | infinity t => rw [beq_iff_eq.mp h]
    | _ => cases h
  | finite s m =>
    cases b with
    | finite t n =>
      obtain ⟨hrank, hsign⟩ := eq_finite_iff.mp h
      obtain rfl := Magnitude.eq_of_rank_eq hrank
      rcases hsign with rfl | hzero
      · rfl
      · simp only [text, if_pos hzero]
    | _ => cases h

theorem Same.text_eq (h : a.Same b) : a.text = b.text := by
  rcases h with h | ⟨ha, hb⟩
  · exact text_eq_of_eq h
  · cases a with
    | nan =>
      cases b with
      | nan => rfl
      | infinity => cases hb
      | finite => cases hb
    | infinity => cases ha
    | finite => cases ha

end Number

end Conform
