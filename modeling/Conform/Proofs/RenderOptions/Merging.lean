import Mathlib.Data.List.Nodup
import Conform.Proofs.RenderOptions.RoundTrip

/-!
# Documents over options

A document that is laid over options which keep the rules can only be refused for what it holds
itself. The result holds the options in their order, under their own values where the document has
none, so no option is missing, and an option that the document leaves alone never offends. The one
that is reported is the first of the document's own values that would be refused alone.

## Main definitions

- `RenderOptions.SameAt` — two sets of options agree in an option
- `RenderOption.alone` — a document that holds one value under the key of an option
- `RenderOption.over` — the value of an option in a document that is laid over options

## Main results

- `RenderOptions.mergeOver_object` — what a document over options consists of
- `RenderOption.speltIn_mergeOver_iff` — an option is spelt if its value is admitted
- `RenderOptions.merged_fails_only_by_document` — how a document over options is validated
-/

namespace Conform

-- ════════════════════════════════════════════════════════════════════════
-- Single options
-- ════════════════════════════════════════════════════════════════════════

namespace RenderOption

/-- A document that holds one value under the key of an option, and nothing else. -/
def alone (option : RenderOption) (v : Value) : Entries Value := ⟨[(option.key, v)]⟩

theorem key_injective {option option' : RenderOption} (h : option.key = option'.key) :
    option = option' :=
  List.inj_on_of_nodup_map nodup_keys option.mem_all option'.mem_all h

/-- The keys of options are no numerals, so a document finds what is stored under exactly them. -/
theorem get?_object (es : Entries Value) (option : RenderOption) :
    (Value.object es).get? option.key = es.get? option.key := by
  have htwin : option.key.twin? = none := by cases option <;> rfl
  rw [Value.get?, Entries.property?, htwin]
  cases es.get? option.key <;> rfl

/-- No value is both admitted and refused: one assertion would have to come to both. -/
theorem not_admits_of_refuses {path : Path} {option : RenderOption} {v : Value} {r : Report}
    (h : option.Refuses path v r) : ¬ option.Admits v := by
  intro hadmits
  have hdepth : 0 + 2 ≤ (⟨2, fun _ => none⟩ : Validator).maxDepth := Nat.le_refl 2
  have hok := assert_of_admits hdepth hadmits path
  have herror := assert_of_refuses hdepth h
  exact nomatch hok.symm.trans herror

/-- A report about an option starts at the key of the option. -/
theorem head?_of_refuses {option : RenderOption} {v : Value} {r : Report}
    (h : option.Refuses (Path.root.child option.key) v r) :
    r.path.keys.head? = some option.key := by
  cases h <;> rfl

end RenderOption

namespace RenderOptions

variable {va : Validator}

/-- Two sets of options have the same value for an option. -/
def SameAt (o o' : RenderOptions) : RenderOption → Prop
  | .strategy => o.strategy = o'.strategy
  | .binary => o.binary = o'.binary
  | .version => o.version = o'.version
  | .formats => o.formats = o'.formats
  | .crop => o.crop = o'.crop
  | .dpi => o.dpi = o'.dpi
  | .midi => o.midi = o'.midi
  | .wrap => o.wrap = o'.wrap

/-- What is read back exactly tells what was stored. -/
theorem eq_of_store_eq {α β : Type} {read : β → Option α} {store : α → β}
    (hread : ∀ {x : β} {a : α}, read x = some a ↔ x = store a) {a a' : α}
    (h : store a = store a') : a = a' := by
  have ha : read (store a) = some a := hread.mpr rfl
  have ha' : read (store a) = some a' := hread.mpr h
  exact Option.some.inj (ha.symm.trans ha')

/-- What an option is stored as tells what it is. -/
theorem sameAt_of_stored_eq {o o' : RenderOptions} {option : RenderOption}
    (h : o.stored option = o'.stored option) : SameAt o o' option := by
  cases option with
  | strategy => exact eq_of_store_eq Strategy.ofValue?_eq_some_iff h
  | binary => exact eq_of_store_eq binaryOfValue?_eq_some_iff h
  | version => exact eq_of_store_eq Value.asString?_eq_some_iff h
  | formats =>
    exact eq_of_store_eq OutputFormat.mapM_ofValue?_eq_some_iff (Value.array.inj h)
  | crop => exact eq_of_store_eq Value.asBool?_eq_some_iff h
  | dpi => exact eq_of_store_eq dpiOfValue?_eq_some_iff h
  | midi => exact eq_of_store_eq Value.asBool?_eq_some_iff h
  | wrap => exact eq_of_store_eq Value.asBool?_eq_some_iff h

-- ════════════════════════════════════════════════════════════════════════
-- What a document over options holds
-- ════════════════════════════════════════════════════════════════════════

/-- The value of an option in a document over options: the document's own, if it has one. -/
def valueOver (o : RenderOptions) (document : Entries Value) (option : RenderOption) : Value :=
  (document.get? option.key).getD (o.stored option)

/-- The options come first, in the order of the descriptor, and then the other keys of the document
    in theirs; the document's own values take the place of those of the options. -/
theorem mergeOver_object (o : RenderOptions) {document : Entries Value} (hkeyed : document.Keyed) :
    ∃ merged : Entries Value, mergeOver (.object document) o = .object merged ∧
      merged.keys = fields.keys ++ document.keys.filter (fun key => key ∉ fields.keys) ∧
      merged.Keyed ∧
      ∀ key, merged.get? key = (document.get? key).or ((⟨o.entries⟩ : Entries Value).get? key) := by
  have hfields : (⟨o.entries⟩ : Entries Value).Keyed := RenderOption.nodup_keys
  refine ⟨(⟨o.entries⟩ : Entries Value).insertAll document.toList, rfl, ?_, ?_, ?_⟩
  · exact Entries.keys_insertAll _ hkeyed
  · exact hfields.insertAll hkeyed
  · exact Entries.get?_insertAll _ hkeyed

theorem get?_entries (o : RenderOptions) (option : RenderOption) :
    (⟨o.entries⟩ : Entries Value).get? option.key = some (o.stored option) := by
  cases option <;> rfl

theorem get?_mergeOver (o : RenderOptions) {document : Entries Value} (hkeyed : document.Keyed)
    (option : RenderOption) :
    (mergeOver (.object document) o).get? option.key = some (o.valueOver document option) := by
  obtain ⟨merged, hmerged, -, -, hget⟩ := mergeOver_object o hkeyed
  rw [hmerged, RenderOption.get?_object, hget, get?_entries, valueOver]
  cases document.get? option.key <;> rfl

-- ════════════════════════════════════════════════════════════════════════
-- How it is validated
-- ════════════════════════════════════════════════════════════════════════

section Validation

variable {o : RenderOptions} {document : Entries Value}

theorem speltIn_mergeOver_iff (hkeyed : document.Keyed) (option : RenderOption) :
    option.SpeltIn (mergeOver (.object document) o) ↔
      option.Admits (o.valueOver document option) := by
  rw [RenderOption.SpeltIn, get?_mergeOver o hkeyed option]
  constructor
  · rintro ⟨v, hv, hadmits⟩
    obtain rfl := Option.some.inj hv
    exact hadmits
  · exact fun hadmits => ⟨_, rfl, hadmits⟩

/-- An option that the document leaves alone has a value that is admitted. -/
theorem admits_valueOver (hrules : OutputFormat.Rules o.formats) {option : RenderOption}
    (h : ∀ v, document.get? option.key = some v → option.Admits v) :
    option.Admits (o.valueOver document option) := by
  rw [valueOver]
  cases hv : document.get? option.key with
  | none => exact admits_stored hrules option
  | some v => exact h v hv

/-- What offends in a document over options is one of the document's own values. -/
theorem own_of_offendsIn (hrules : OutputFormat.Rules o.formats) (hkeyed : document.Keyed)
    {option : RenderOption} {e : OptionsError}
    (h : option.OffendsIn (mergeOver (.object document) o) e) :
    ∃ v r, e = .invalidOption r ∧ document.get? option.key = some v ∧
      option.Refuses (Path.root.child option.key) v r := by
  have hget := get?_mergeOver o hkeyed option
  cases h with
  | missing hnone => exact nomatch hget.symm.trans hnone
  | @invalid w r hw hr =>
    obtain rfl := Option.some.inj (hget.symm.trans hw)
    rw [valueOver] at hr
    cases hv : document.get? option.key with
    | none =>
      rw [hv] at hr
      exact absurd (admits_stored hrules option) (RenderOption.not_admits_of_refuses hr)
    | some v =>
      rw [hv] at hr
      exact ⟨v, r, rfl, rfl, hr⟩

theorem keyed_alone (option : RenderOption) (v : Value) : (option.alone v).Keyed :=
  List.nodup_singleton option.key

theorem get?_alone (option other : RenderOption) (v : Value) :
    (option.alone v).get? other.key = if other = option then some v else none := by
  rw [RenderOption.alone, Entries.get?_cons]
  by_cases h : other = option
  · rw [if_pos h, if_pos (congrArg RenderOption.key h)]
  · rw [if_neg h, if_neg fun hkey => h (RenderOption.key_injective hkey)]
    rfl

/-- From a limit of three levels on, a value that an option admits is accepted alone. -/
theorem accepted_alone (hdepth : 3 ≤ va.maxDepth) (hrules : OutputFormat.Rules o.formats)
    {option : RenderOption} {v : Value} (h : option.Admits v) :
    ∃ o', (validateComplete va (mergeOver (.object (option.alone v)) o)).outcome = .ok o' := by
  have hspelt : ∀ other : RenderOption,
      other.SpeltIn (mergeOver (.object (option.alone v)) o) := by
    intro other
    rw [speltIn_mergeOver_iff (keyed_alone option v)]
    apply admits_valueOver hrules
    intro w hw
    rw [get?_alone] at hw
    split at hw
    next hsame =>
      obtain rfl := Option.some.inj hw
      exact hsame ▸ h
    next => cases hw
  obtain ⟨o', hspells, hrules'⟩ := exists_spells hspelt
  exact ⟨o', (outcome_validateComplete_eq_ok_iff hdepth).mpr ⟨rfl, hspells, hrules'⟩⟩

/-- A value that an option refuses is refused alone, with the same report. -/
theorem refused_alone (hdepth : 3 ≤ va.maxDepth) (hrules : OutputFormat.Rules o.formats)
    {option : RenderOption} {v : Value} {r : Report}
    (h : option.Refuses (Path.root.child option.key) v r) :
    (validateComplete va (mergeOver (.object (option.alone v)) o)).outcome =
      .error (.invalidOption r) := by
  have hkeyed := keyed_alone option v
  obtain ⟨before, after, horder⟩ := List.append_of_mem option.mem_all
  refine (outcome_validateComplete_eq_error_iff hdepth).mpr
    (.first rfl horder ?_ (.invalid (v := v) ?_ h))
  · -- the options before it are other ones, so the document leaves them alone
    intro earlier hearlier
    have hnodup : RenderOption.all.Nodup := RenderOption.nodup_keys.of_map
    rw [horder] at hnodup
    have hne : earlier ≠ option :=
      (List.nodup_append.mp hnodup).2.2 earlier hearlier option List.mem_cons_self
    rw [speltIn_mergeOver_iff hkeyed]
    apply admits_valueOver hrules
    intro w hw
    rw [get?_alone, if_neg hne] at hw
    cases hw
  · rw [get?_mergeOver o hkeyed, valueOver, get?_alone, if_pos rfl, Option.getD_some]

/-- From a limit of three levels on, a document over options that keep the rules can only be refused
    for what it holds. The result consists of the options, in the order of the descriptor, and the
    other keys of the document, in its order, with the document's own values where it has some. It
    is refused for the first of the options whose value in the document would be refused alone, and
    with that report; no option is missing, and no fault is raised. If it is accepted, then every
    option has the value of the document, or else the one it had. -/
theorem merged_fails_only_by_document (hdepth : 3 ≤ va.maxDepth)
    (hrules : OutputFormat.Rules o.formats) (hkeyed : document.Keyed) :
    (∃ merged stored : Entries Value, mergeOver (.object document) o = .object merged ∧
      o.toValue = .object stored ∧
      merged.keys = fields.keys ++ document.keys.filter (fun key => key ∉ fields.keys) ∧
      merged.Keyed ∧ ∀ key, merged.get? key = (document.get? key).or (stored.get? key)) ∧
    (∀ e, (validateComplete va (mergeOver (.object document) o)).outcome = .error e →
      ∃ before option after v r, RenderOption.all = before ++ option :: after ∧
        document.get? option.key = some v ∧ e = .invalidOption r ∧
        r.path.keys.head? = some option.key ∧
        (validateComplete va (mergeOver (.object (option.alone v)) o)).outcome =
          .error (.invalidOption r) ∧
        ∀ earlier ∈ before, ∀ w, document.get? earlier.key = some w →
          ∃ o', (validateComplete va (mergeOver (.object (earlier.alone w)) o)).outcome = .ok o') ∧
    ∀ o', (validateComplete va (mergeOver (.object document) o)).outcome = .ok o' →
      ∀ option : RenderOption,
        (∀ v, document.get? option.key = some v → o'.stored option = v) ∧
        (document.get? option.key = none → SameAt o' o option) := by
  refine ⟨?_, ?_, ?_⟩
  · obtain ⟨merged, hmerged, hkeys, hnodup, hget⟩ := mergeOver_object o hkeyed
    exact ⟨merged, ⟨o.entries⟩, hmerged, toValue_eq o, hkeys, hnodup, hget⟩
  · intro e h
    have hrefused := (outcome_validateComplete_eq_error_iff hdepth).mp h
    cases hrefused with
    | noObject hobject => cases hobject
    | @first before after option e _ horder hbefore hoffends =>
      obtain ⟨v, r, rfl, hv, hr⟩ := own_of_offendsIn hrules hkeyed hoffends
      refine ⟨before, option, after, v, r, horder, hv, rfl, RenderOption.head?_of_refuses hr,
        refused_alone hdepth hrules hr, ?_⟩
      intro earlier hearlier w hw
      have hadmits := (speltIn_mergeOver_iff hkeyed earlier).mp (hbefore earlier hearlier)
      rw [valueOver, hw, Option.getD_some] at hadmits
      exact accepted_alone hdepth hrules hadmits
  · intro o' h option
    obtain ⟨-, hspells, -⟩ := spells_of_outcome h
    have hstored : o.valueOver document option = o'.stored option :=
      Option.some.inj ((get?_mergeOver o hkeyed option).symm.trans (hspells option))
    rw [valueOver] at hstored
    constructor
    · intro v hv
      rw [← hstored, hv, Option.getD_some]
    · intro hnone
      rw [hnone, Option.getD_none] at hstored
      exact sameAt_of_stored_eq hstored.symm

end Validation

/-- A resolution that is a text, after a key that is no option and a bad wish to wrap. -/
def blurred : Entries Value :=
  ⟨[(.string "title", .null), (.string "wrap", .null), (.string "dpi", .string "high"),
    (.string "crop", .bool false)]⟩

/-- What is reported about it. -/
def blurredReport : Report :=
  ⟨⟨[.string "dpi"]⟩, "number | null", some (Value.string "high").received⟩

/-- The resolution comes before the wrapping in the descriptor, and it would be refused alone. -/
theorem merged_fails_only_by_document_blurred :
    3 ≤ (⟨3, fun _ => none⟩ : Validator).maxDepth ∧ OutputFormat.Rules default.formats ∧
    blurred.Keyed ∧
    (∃ merged : Entries Value, mergeOver (.object blurred) default = .object merged ∧
      merged.keys = fields.keys ++ [.string "title"]) ∧
    (validateComplete ⟨3, fun _ => none⟩ (mergeOver (.object blurred) default)).outcome =
      .error (.invalidOption blurredReport) ∧
    (validateComplete ⟨3, fun _ => none⟩
      (mergeOver (.object (RenderOption.dpi.alone (.string "high"))) default)).outcome =
      .error (.invalidOption blurredReport) := by
  have hdepth : 3 ≤ (⟨3, fun _ => none⟩ : Validator).maxDepth := by decide
  have hrules : OutputFormat.Rules default.formats := ⟨by decide, by decide, by decide⟩
  have hkeyed : blurred.Keyed := by
    show (blurred.toList.map Prod.fst).Nodup
    decide
  obtain ⟨⟨merged, -, hmerged, -, hkeys, -⟩, herror, -⟩ :=
    merged_fails_only_by_document hdepth hrules hkeyed
  have houtcome : (validateComplete ⟨3, fun _ => none⟩
      (mergeOver (.object blurred) default)).outcome =
        .error (.invalidOption blurredReport) := rfl
  obtain ⟨before, option, after, v, r, -, hv, he, hhead, halone, -⟩ := herror _ houtcome
  -- the report starts at the key of the resolution
  obtain rfl := OptionsError.invalidOption.inj he
  obtain rfl : RenderOption.dpi = option := RenderOption.key_injective (Option.some.inj hhead)
  obtain rfl : Value.string "high" = v := Option.some.inj hv
  exact ⟨hdepth, hrules, hkeyed, ⟨merged, hmerged, hkeys⟩, houtcome, halone⟩

end RenderOptions

end Conform
