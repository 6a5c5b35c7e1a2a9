import Conform.Proofs.Entries
import Conform.Proofs.RenderOptions.Language

/-!
# Storing and validating render options

Options that keep the rules across formats are stored as a document that validation reads back as
they were, whatever they are laid over. Conversely a document that is accepted is stored again as
it was, less the keys that are no option, so that a second validation changes nothing.

## Main results

- `RenderOptions.spells_toValue` — options spell themselves out
- `RenderOptions.mergeOver_toValue` — a full set of options covers every other
- `RenderOptions.toValue_validateComplete_inverse` — storing and validating are inverse
-/

namespace Conform.RenderOptions

variable {va : Validator}

theorem toValue_eq (o : RenderOptions) : o.toValue = .object ⟨o.entries⟩ := rfl

theorem spells_toValue (o : RenderOptions) : Spells o.toValue o := by
  intro option
  cases option <;> rfl

/-- A full set of options covers every other. -/
theorem mergeOver_toValue (o defaults : RenderOptions) :
    mergeOver o.toValue defaults = o.toValue := by
  have hkeys : o.entries.map Prod.fst = defaults.entries.map Prod.fst := rfl
  have hnodup : (o.entries.map Prod.fst).Nodup := RenderOption.nodup_keys
  have hdefaults : Entries.ofList defaults.entries = ⟨defaults.entries⟩ := rfl
  rw [toValue_eq, mergeOver, hdefaults, Entries.insertAll_of_same_keys hkeys hnodup]

/-- From a limit of three levels on, options that keep the rules are read back as they were. -/
theorem outcome_validateComplete_toValue (hdepth : 3 ≤ va.maxDepth) {o : RenderOptions}
    (hrules : OutputFormat.Rules o.formats) :
    (validateComplete va o.toValue).outcome = .ok o :=
  (outcome_validateComplete_eq_ok_iff hdepth).mpr ⟨rfl, spells_toValue o, hrules⟩

/-- What is accepted is accepted a second time, at the same limit. -/
theorem outcome_validateComplete_again {doc : Value} {o : RenderOptions}
    (h : (validateComplete va doc).outcome = .ok o) :
    (validateComplete va o.toValue).outcome = .ok o := by
  obtain ⟨hobject, hspells, -⟩ := spells_of_outcome h
  have hsame : ∀ option : RenderOption, o.toValue.get? option.key = doc.get? option.key := by
    intro option
    rw [spells_toValue o option, hspells option]
  rw [outcome_validateComplete_congr va rfl hobject hsame, h]

/-- Storing and validating are inverse. From a limit of three levels on, options that keep the
    rules are read back as they were, alone and over any defaults. Whatever the limit is, the result
    of a document keeps the rules, is stored under the keys of the descriptor, in their order, as
    what the document holds there, and is its own result. -/
theorem toValue_validateComplete_inverse (va : Validator) :
    (∀ o : RenderOptions, 3 ≤ va.maxDepth → OutputFormat.Rules o.formats →
      (validateComplete va o.toValue).outcome = .ok o ∧
      (validate va o.toValue).outcome = .ok o ∧
      ∀ defaults, (validateComplete va (mergeOver o.toValue defaults)).outcome = .ok o) ∧
    ∀ (doc : Value) (o : RenderOptions), (validateComplete va doc).outcome = .ok o →
      OutputFormat.Rules o.formats ∧
      (∃ entries : Entries Value, o.toValue = .object entries ∧ entries.keys = fields.keys ∧
        ∀ entry ∈ entries.toList, doc.get? entry.1 = some entry.2) ∧
      (validateComplete va o.toValue).outcome = .ok o := by
  constructor
  · intro o hdepth hrules
    have hok := outcome_validateComplete_toValue hdepth hrules
    refine ⟨hok, ?_, fun defaults => ?_⟩
    · rw [validate, mergeOver_toValue]
      exact hok
    · rw [mergeOver_toValue]
      exact hok
  · intro doc o h
    obtain ⟨hobject, hspells, hrules⟩ := spells_of_outcome h
    refine ⟨hrules, ⟨⟨o.entries⟩, toValue_eq o, rfl, ?_⟩, outcome_validateComplete_again h⟩
    exact ofValue?_eq_some_iff.mp (ofValue?_eq_some_iff_spells.mpr hspells)

/-- Options at the edges: no texts, a format twice, and a resolution that is no number. -/
def edges : RenderOptions where
  strategy := .imgPng
  binary := .path ""
  version := ""
  formats := [.png, .pdf, .png]
  crop := false
  dpi := some (.nan true ⟨1, by decide, by decide⟩)
  midi := true
  wrap := false

/-- The same options in another order, next to a key that is no option. -/
def edgesShuffled : Value := .object ⟨(.index 7, .null) :: edges.entries.reverse⟩

theorem toValue_validateComplete_inverse_edges :
    OutputFormat.Rules edges.formats ∧
    (validateComplete ⟨3, fun _ => none⟩ (mergeOver edges.toValue default)).outcome = .ok edges ∧
    (validateComplete ⟨3, fun _ => none⟩ edgesShuffled).outcome = .ok edges ∧
    ∃ entries : Entries Value, edges.toValue = .object entries ∧ entries.keys = fields.keys ∧
      ∀ entry ∈ entries.toList, edgesShuffled.get? entry.1 = some entry.2 := by
  have hdepth : 3 ≤ (⟨3, fun _ => none⟩ : Validator).maxDepth := by decide
  have hrules : OutputFormat.Rules edges.formats := ⟨by decide, by decide, by decide⟩
  have hspells : Spells edgesShuffled edges := by
    intro option
    cases option <;> rfl
  have haccepted := (outcome_validateComplete_eq_ok_iff hdepth).mpr ⟨rfl, hspells, hrules⟩
  obtain ⟨hforth, hback⟩ := toValue_validateComplete_inverse ⟨3, fun _ => none⟩
  exact ⟨hrules, (hforth edges hdepth hrules).2.2 default, haccepted,
    (hback edgesShuffled edges haccepted).2.1⟩

end Conform.RenderOptions
