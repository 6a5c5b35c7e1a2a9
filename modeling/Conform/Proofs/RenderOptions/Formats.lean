import Conform.Proofs.RenderOptions.Decoding

/-!
# Lists of formats

The rules across a list of formats, and the first rule that a list offends, are what the descriptor
of render options complains about. Every list of values names formats throughout or up to a first
value that names none.

## Main definitions

- `OutputFormat.Rules` — the rules across formats
- `OutputFormat.Offence` — the rule that is offended first

## Main results

- `OutputFormat.formatsComplaint?_eq_some_iff`, `OutputFormat.formatsComplaint?_eq_none_iff`
- `OutputFormat.names_or_unknown` — the first item that names no format
-/

namespace Conform

namespace OutputFormat

/-- The rules across a list of formats. -/
structure Rules (formats : List OutputFormat) : Prop where
  /-- Vector graphics are produced alone. -/
  svgAlone : svg ∈ formats → formats.length = 1
  /-- PostScript is not produced. -/
  noPs : ps ∉ formats
  /-- Encapsulated PostScript is not produced either. -/
  noEps : eps ∉ formats

/-- The rule against which a list of formats offends first, in the words of the report. -/
inductive Offence (formats : List OutputFormat) : String → Prop
  | svg (hsvg : svg ∈ formats) (hlength : formats.length ≠ 1) :
      Offence formats "svg on its own (it cannot be generated alongside other formats)"
  | ps (hsvg : svg ∈ formats → formats.length = 1) (hps : ps ∈ formats) :
      Offence formats "supported formats (ps is not supported)"
  | eps (hsvg : svg ∈ formats → formats.length = 1) (hps : ps ∉ formats) (heps : eps ∈ formats) :
      Offence formats "supported formats (eps is not supported)"

/-- The first test asks whether vector graphics stand in company. -/
theorem company_iff {formats : List OutputFormat} :
    (formats.contains svg && decide (formats.length > 1)) = true ↔
      svg ∈ formats ∧ formats.length ≠ 1 := by
  rw [Bool.and_eq_true, List.contains_iff_mem, decide_eq_true_eq]
  constructor
  · rintro ⟨hmem, hlength⟩
    exact ⟨hmem, by omega⟩
  · rintro ⟨hmem, hlength⟩
    have hpos := List.length_pos_of_mem hmem
    exact ⟨hmem, by omega⟩

/-- What is complained about is the rule that is offended first. -/
theorem formatsComplaint?_eq_some_iff {formats : List OutputFormat} {text : String} :
    RenderOptions.formatsComplaint? formats = some text ↔ Offence formats text := by
  simp only [RenderOptions.formatsComplaint?, company_iff, List.contains_iff_mem]
  constructor
  · intro h
    by_cases hsvg : svg ∈ formats ∧ formats.length ≠ 1
    · rw [if_pos hsvg] at h
      cases h
      exact .svg hsvg.1 hsvg.2
    · rw [if_neg hsvg] at h
      have halone : svg ∈ formats → formats.length = 1 := fun hmem =>
        Decidable.byContradiction fun hlength => hsvg ⟨hmem, hlength⟩
      by_cases hps : ps ∈ formats
      · rw [if_pos hps] at h
        cases h
        exact .ps halone hps
      · rw [if_neg hps] at h
        by_cases heps : eps ∈ formats
        · rw [if_pos heps] at h
          cases h
          exact .eps halone hps heps
        · rw [if_neg heps] at h
          cases h
  · intro h
    cases h with
    | svg hsvg hlength => rw [if_pos ⟨hsvg, hlength⟩]
    | ps hsvg hps =>
      rw [if_neg fun h => h.2 (hsvg h.1), if_pos hps]
      rfl
    | eps hsvg hps heps =>
      rw [if_neg fun h => h.2 (hsvg h.1), if_neg hps, if_pos heps]
      rfl

/-- The rules are kept exactly if none of them is offended. -/
theorem rules_iff_not_offence {formats : List OutputFormat} :
    Rules formats ↔ ∀ text, ¬ Offence formats text := by
  constructor
  · rintro h _ (⟨hsvg, hlength⟩ | ⟨-, hps⟩ | ⟨-, -, heps⟩)
    · exact hlength (h.svgAlone hsvg)
    · exact h.noPs hps
    · exact h.noEps heps
  · intro h
    have halone : svg ∈ formats → formats.length = 1 := fun hsvg =>
      Decidable.byContradiction fun hlength => h _ (.svg hsvg hlength)
    have hps : ps ∉ formats := fun hps => h _ (.ps halone hps)
    exact ⟨halone, hps, fun heps => h _ (.eps halone hps heps)⟩

theorem formatsComplaint?_eq_none_iff {formats : List OutputFormat} :
    RenderOptions.formatsComplaint? formats = none ↔ Rules formats := by
  simp only [Option.eq_none_iff_forall_ne_some, ne_eq, formatsComplaint?_eq_some_iff,
    rules_iff_not_offence]

/-- The values that name formats, read as formats again. -/
theorem filterMap_ofValue?_names (formats : List OutputFormat) :
    (formats.map fun f => Value.string f.name).filterMap ofValue? = formats := by
  rw [List.filterMap_map]
  have hread : ofValue? ∘ (fun f => Value.string f.name) = some := by
    funext f
    exact ofValue?_eq_some_iff.mpr rfl
  rw [hread, List.filterMap_some]

/-- A list of values names formats throughout, or up to a first one that names none. -/
theorem names_or_unknown (items : List Value) :
    (∃ formats : List OutputFormat, items = formats.map fun f => .string f.name) ∨
    ∃ (formats : List OutputFormat) (item : Value) (rest : List Value),
      items = (formats.map fun f => .string f.name) ++ item :: rest ∧
      ∀ f : OutputFormat, item ≠ .string f.name := by
  induction items with
  | nil => exact .inl ⟨[], rfl⟩
  | cons x items ih =>
    by_cases hx : ∃ f : OutputFormat, x = .string f.name
    · obtain ⟨f, rfl⟩ := hx
      rcases ih with ⟨formats, rfl⟩ | ⟨formats, item, rest, rfl, hitem⟩
      · exact .inl ⟨f :: formats, rfl⟩
      · exact .inr ⟨f :: formats, item, rest, rfl, hitem⟩
    · exact .inr ⟨[], x, items, rfl, fun f hf => hx ⟨f, hf⟩⟩

end OutputFormat

end Conform
