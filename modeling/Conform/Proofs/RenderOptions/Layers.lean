import Conform.Proofs.RenderOptions.Independence

/-!
# Layers of documents

Options that come out of a validation can be the defaults of the next one. A document that is laid
over such a result is validated like both documents laid over each other, although the result has
gone through a reading and a storing, and has lost the keys that are no option on the way.

## Main results

- `RenderOptions.sameOptions_mergeOver_result` — over a result and over what it was made of
- `RenderOptions.outcome_layers` — any number of layers that are accepted one after the other
- `RenderOptions.layered_overrides_compose` — two layers, the second of which may be refused
-/

namespace Conform.RenderOptions

section Layers

variable {va : Validator} {o result : RenderOptions} {lower upper : Entries Value}

/-- What a document holds over options that another one spells out over others, the two documents
    hold there together. -/
theorem sameOptions_mergeOver_result (hlower : lower.Keyed) (hupper : upper.Keyed)
    (h : Spells (mergeOver (.object lower) o) result) :
    SameOptions (mergeOver (.object upper) result)
      (mergeOver (.object (lower.insertAll upper.toList)) o) := by
  intro option
  have hresult : result.stored option = o.valueOver lower option := by
    have hget := get?_mergeOver o hlower option
    rw [h option] at hget
    exact Option.some.inj hget
  rw [get?_mergeOver result hupper, get?_mergeOver o (hlower.insertAll hupper), valueOver,
    valueOver, Entries.get?_insertAll lower hupper, hresult]
  cases upper.get? option.key with
  | some v => rfl
  | none => rfl

/-- Layers that are accepted one after the other, each over the result of the one before, come to
    what all of them laid over each other come to at once. -/
theorem outcome_layers {layers : List (Entries Value)} (hlower : lower.Keyed)
    (hlayers : ∀ layer ∈ layers, layer.Keyed)
    (hfirst : (validateComplete va (mergeOver (.object lower) o)).outcome = .ok result)
    {last : RenderOptions}
    (hrest : layers.foldlM
      (fun r layer => (validateComplete va (mergeOver (.object layer) r)).outcome) result =
        .ok last) :
    (validateComplete va (mergeOver
      (.object (layers.foldl (fun es layer => es.insertAll layer.toList) lower)) o)).outcome =
        .ok last := by
  induction layers generalizing lower result with
  | nil =>
    obtain rfl := Except.ok.inj hrest
    exact hfirst
  | cons layer layers ih =>
    obtain ⟨hlayer, hlayers⟩ := List.forall_mem_cons.mp hlayers
    rw [List.foldlM_cons] at hrest
    cases hnext : (validateComplete va (mergeOver (.object layer) result)).outcome with
    | error e =>
      rw [hnext] at hrest
      cases hrest
    | ok next =>
      rw [hnext] at hrest
      -- the layers so far are one document, over which the next ones are laid
      obtain ⟨-, hspells, -⟩ := spells_of_outcome hfirst
      have htogether := outcome_validateComplete_congr va rfl rfl
        (sameOptions_mergeOver_result hlower hlayer hspells)
      exact ih (hlower.insertAll hlayer) hlayers (htogether.symm.trans hnext) hrest

/-- Layered overrides compose, whatever the limit is and whatever the options at the bottom are: if
    a first document is accepted, then a second one over its result has the outcome that the first
    document with the entries of the second inserted has over the same options. It is the same
    result, or the same error with the same report. -/
theorem layered_overrides_compose (va : Validator) (o : RenderOptions) {lower upper : Entries Value}
    (hlower : lower.Keyed) (hupper : upper.Keyed) {result : RenderOptions}
    (h : (validateComplete va (mergeOver (.object lower) o)).outcome = .ok result) :
    (validateComplete va (mergeOver (.object upper) result)).outcome =
      (validateComplete va (mergeOver (.object (lower.insertAll upper.toList)) o)).outcome := by
  obtain ⟨-, hspells, -⟩ := spells_of_outcome h
  have hsame := sameOptions_mergeOver_result hlower hupper hspells
  exact outcome_validateComplete_congr va rfl rfl hsame

end Layers

/-- A picture for print, under a title. -/
def forPrint : Entries Value :=
  ⟨[(.string "title", .string "Air"), (.string "formats", .array [.string "png"]),
    (.string "dpi", .number (.ofNat 300))]⟩

/-- The same without a limit to the resolution, and with a format that is not known. -/
def forPosters : Entries Value :=
  ⟨[(.string "dpi", .null), (.index 3, .undefined), (.string "crop", .bool false),
    (.string "formats", .array [.string "png", .string "tiff"])]⟩

/-- The second layer is refused for its second format, over the first one and with it. -/
theorem layered_overrides_compose_posters :
    ∃ result, forPrint.Keyed ∧ forPosters.Keyed ∧
      (validateComplete ⟨3, fun _ => none⟩ (mergeOver (.object forPrint) default)).outcome =
        .ok result ∧
      (validateComplete ⟨3, fun _ => none⟩ (mergeOver (.object forPosters) result)).outcome =
        (validateComplete ⟨3, fun _ => none⟩
          (mergeOver (.object (forPrint.insertAll forPosters.toList)) default)).outcome ∧
      (validateComplete ⟨3, fun _ => none⟩ (mergeOver (.object forPosters) result)).outcome =
        .error (.invalidOption ⟨⟨[.string "formats", .index 1]⟩, RenderOption.formatChoice,
          some (Value.string "tiff").received⟩) := by
  have hprint : forPrint.Keyed := by
    show (forPrint.toList.map Prod.fst).Nodup
    decide
  have hposters : forPosters.Keyed := by
    show (forPosters.toList.map Prod.fst).Nodup
    decide
  have haccepted : (validateComplete ⟨3, fun _ => none⟩
      (mergeOver (.object forPrint) default)).outcome =
        .ok { default with formats := [.png], dpi := some (.ofNat 300) } := rfl
  have hsame :=
    layered_overrides_compose ⟨3, fun _ => none⟩ default hprint hposters haccepted
  exact ⟨_, hprint, hposters, haccepted, hsame, hsame.trans rfl⟩

end Conform.RenderOptions
