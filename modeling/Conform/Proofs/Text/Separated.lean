import Conform.Text.Separated

/-!
# Separated text

A text that is cut at a character is a list that is split at it, so what is known about splitting
lists holds of texts.

## Main results

- `Separated.split_eq_splitOn` — cutting is splitting
- `Separated.splitText_append` — what stands before and after a separator is cut on its own
-/

namespace Conform.Separated

variable {separator : Char}

theorem split_eq_splitOn (separator : Char) (cs : List Char) :
    split separator cs = cs.splitOn separator := by
  induction cs with
  | nil => rfl
  | cons c cs ih =>
    rw [split, ih]
    show _ = List.splitOnP (· == separator) (c :: cs)
    rw [List.splitOnP_cons_eq_if_modifyHead]
    by_cases hc : c = separator
    · rw [if_pos hc, if_pos (beq_iff_eq.mpr hc)]
      rfl
    · rw [if_neg hc, if_neg fun h => hc (beq_iff_eq.mp h)]
      show _ = List.modifyHead (List.cons c) (cs.splitOn separator)
      cases hparts : cs.splitOn separator with
      | nil => exact absurd hparts (List.splitOnP_ne_nil _ _)
      | cons part parts => rfl

theorem splitText_append (s t : String) :
    splitText separator (s ++ String.singleton separator ++ t) =
      splitText separator s ++ splitText separator t := by
  simp only [splitText, split_eq_splitOn, ← List.map_append]
  rw [← List.splitOn_append_cons_self]
  simp

/-- A text without the separator is its only part. -/
theorem splitText_of_not_mem {s : String} (h : separator ∉ s.toList) :
    splitText separator s = [s] := by
  rw [splitText, split_eq_splitOn, List.splitOn_eq_singleton h]
  simp

end Conform.Separated
