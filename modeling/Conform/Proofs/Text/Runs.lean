import Mathlib.Data.List.TakeWhile

/-!
# Runs

A run of items with a property ends where no such item follows. Read from the front, it is what
`takeWhile` takes, so that a run and what follows it are told by their concatenation.

## Main definitions

- `Run.Ends` — what can follow a run

## Main results

- `Run.takeWhile_append`, `Run.dropWhile_append` — a run in front and what follows it
- `Run.append_inj` — a run is told apart from what follows it
-/

namespace Conform.Run

variable {α : Type} {p : α → Bool} {xs ys rest rest' : List α}

/-- Nothing is left, or an item without the property comes next. -/
def Ends (p : α → Bool) (rest : List α) : Prop := ∀ x ∈ rest.head?, p x = false

theorem ends_nil : Ends p [] := nofun

theorem ends_cons {x : α} (h : p x = false) : Ends p (x :: rest) := by
  rintro y ⟨⟩
  exact h

theorem takeWhile_append (hxs : ∀ x ∈ xs, p x = true) (hrest : Ends p rest) :
    (xs ++ rest).takeWhile p = xs := by
  rw [List.takeWhile_append_of_pos hxs]
  cases rest with
  | nil => rw [List.takeWhile_nil, List.append_nil]
  | cons x rest => rw [List.takeWhile_cons_of_neg (by simp [hrest x rfl]), List.append_nil]

theorem dropWhile_append (hxs : ∀ x ∈ xs, p x = true) (hrest : Ends p rest) :
    (xs ++ rest).dropWhile p = rest := by
  rw [List.dropWhile_append_of_pos hxs]
  cases rest with
  | nil => rw [List.dropWhile_nil]
  | cons x rest => rw [List.dropWhile_cons_of_neg (by simp [hrest x rfl])]

/-- A run is told apart from what follows it. -/
theorem append_inj (hxs : ∀ x ∈ xs, p x = true) (hys : ∀ y ∈ ys, p y = true)
    (hrest : Ends p rest) (hrest' : Ends p rest') (h : xs ++ rest = ys ++ rest') :
    xs = ys ∧ rest = rest' := by
  have htake := congrArg (List.takeWhile p) h
  have hdrop := congrArg (List.dropWhile p) h
  rw [takeWhile_append hxs hrest, takeWhile_append hys hrest'] at htake
  rw [dropWhile_append hxs hrest, dropWhile_append hys hrest'] at hdrop
  exact ⟨htake, hdrop⟩

end Conform.Run
