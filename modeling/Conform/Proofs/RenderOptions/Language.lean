import Conform.Proofs.RenderOptions.Options
import Conform.Proofs.View
import Conform.RenderOptions.Validation

/-!
# The language of render options

Which documents spell out a full set of render options. From a limit of three levels on, validation
decides that language. It never ends in a fault, and the error is that of the first option that
offends.

## Main definitions

- `RenderOption.SpeltIn`, `RenderOption.OffendsIn` — an option of a document, and the error about it
- `RenderOptions.Spells` — a document holds what a set of options is stored as
- `RenderOptions.Refused` — the error of a document that spells out no set of options

## Main results

- `RenderOptions.exists_spells_of_assert` — what the descriptor accepts spells out options
- `RenderOptions.spells_of_outcome` — what is accepted is spelt out, whatever the limit is
- `RenderOptions.outcome_validateComplete_eq_ok_iff` — what is accepted, and with which result
- `RenderOptions.outcome_validateComplete_eq_error_iff` — what is refused, and with which error
- `RenderOptions.validation_decides_language` — the language, and the error of every other document
-/

namespace Conform

theorem Value.received_of_isObject {v : Value} (h : v.isObject = true) : v.received = "object" := by
  cases v with
  | object _ => rfl
  | _ => cases h

theorem Value.holdsProperties_of_isObject {v : Value} (h : v.isObject = true) :
    v.holdsProperties = true := by
  cases v with
  | object _ => rfl
  | _ => cases h

namespace RenderOption

variable {va : Validator}

/-- A document holds a value that an option admits. -/
def SpeltIn (doc : Value) (option : RenderOption) : Prop :=
  ∃ v, doc.get? option.key = some v ∧ option.Admits v

/-- The error about an option that a document does not hold, or holds with a wrong value. -/
inductive OffendsIn (doc : Value) (option : RenderOption) : OptionsError → Prop
  | missing (h : doc.get? option.key = none) :
      OffendsIn doc option
        (.missingOption ⟨Path.root.child option.key, option.expectation, none⟩)
  | invalid {v : Value} {r : Report} (hv : doc.get? option.key = some v)
      (hr : option.Refuses (Path.root.child option.key) v r) :
      OffendsIn doc option (.invalidOption r)

/-- An option is spelt in a document, or there is an error about it. -/
theorem speltIn_or_offendsIn (doc : Value) (option : RenderOption) :
    option.SpeltIn doc ∨ ∃ e, option.OffendsIn doc e := by
  match hv : doc.get? option.key with
  | none => exact .inr ⟨_, .missing hv⟩
  | some v =>
    rcases admits_or_refuses (Path.root.child option.key) option v with hadmits | ⟨r, hr⟩
    · exact .inl ⟨v, hv, hadmits⟩
    · exact .inr ⟨_, .invalid hv hr⟩

/-- The check of one option of a document. -/
def checkIn (va : Validator) (doc : Value) (option : RenderOption) : Eval Failure Unit :=
  match doc.get? option.key with
  | some v => (va.levelAt 1).assert v option.descriptor (Path.root.child option.key)
  | none => Eval.rejectAbsent (Path.root.child option.key) option.descriptor

/-- A value that holds properties is checked option by option. -/
theorem assert_descriptor_eq (va : Validator) {doc : Value} (hholds : doc.holdsProperties = true) :
    (va.assert doc RenderOptions.descriptor).outcome = (all.forM (checkIn va doc)).outcome := by
  rw [Validator.assert, Validator.outcome_assert_of_le (Nat.zero_le _)]
  simp only [Scope.assertHere, RenderOptions.descriptor, hholds, if_true, fields_eq]
  rfl

/-- A value that holds none is rejected as a whole. -/
theorem assert_descriptor_of_not_holds (va : Validator) {doc : Value}
    (hholds : doc.holdsProperties = false) :
    (va.assert doc RenderOptions.descriptor).outcome =
      .error (.wrongType .root RenderOptions.descriptor doc) := by
  rw [Validator.assert, Validator.outcome_assert_of_le (Nat.zero_le _)]
  simp only [Scope.assertHere, RenderOptions.descriptor, hholds]
  rfl

/-- An array holds properties, but under no name: the first option is missing. -/
theorem assert_descriptor_of_array (va : Validator) (items : List Value) :
    (va.assert (.array items) RenderOptions.descriptor).outcome =
      .error (.absent (Path.root.child strategy.key) strategy.descriptor) := by
  rw [assert_descriptor_eq va rfl]
  apply Eval.outcome_forM_eq_error_iff.mpr
  exact ⟨[], strategy, _, rfl, List.forall_mem_nil _, rfl⟩

/-- Whatever the limit is, the check of an option succeeds only if the option is spelt. -/
theorem speltIn_of_checkIn {doc : Value} {option : RenderOption}
    (h : (option.checkIn va doc).outcome = .ok ()) : option.SpeltIn doc := by
  rw [checkIn] at h
  cases hv : doc.get? option.key with
  | none =>
    rw [hv] at h
    cases h
  | some v =>
    rw [hv] at h
    exact ⟨v, hv, admits_of_assert h⟩

theorem checkIn_of_offendsIn (hdepth : 3 ≤ va.maxDepth) {doc : Value} {option : RenderOption}
    {e : OptionsError} (h : option.OffendsIn doc e) :
    ∃ failure, (option.checkIn va doc).outcome = .error failure ∧
      OptionsError.factory.convert failure = e := by
  cases h with
  | missing hv =>
    rw [checkIn, hv]
    refine ⟨_, rfl, ?_⟩
    rw [← render_descriptor]
    rfl
  | invalid hv hr =>
    rw [checkIn, hv]
    exact ⟨_, assert_of_refuses hdepth hr, rfl⟩

/-- The check of an option succeeds exactly if the option is spelt. -/
theorem checkIn_eq_ok_iff (hdepth : 3 ≤ va.maxDepth) {doc : Value} {option : RenderOption} :
    (option.checkIn va doc).outcome = .ok () ↔ option.SpeltIn doc := by
  refine ⟨speltIn_of_checkIn, ?_⟩
  rintro ⟨v, hv, hadmits⟩
  rw [checkIn, hv]
  exact assert_of_admits hdepth hadmits _

/-- The check of an option fails with the error about it. -/
theorem offendsIn_of_checkIn (hdepth : 3 ≤ va.maxDepth) {doc : Value} {option : RenderOption}
    {failure : Failure} (h : (option.checkIn va doc).outcome = .error failure) :
    option.OffendsIn doc (OptionsError.factory.convert failure) := by
  rcases option.speltIn_or_offendsIn doc with hspelt | ⟨e, hoffends⟩
  · exact nomatch h.symm.trans ((checkIn_eq_ok_iff hdepth).mpr hspelt)
  · obtain ⟨failure', herror, rfl⟩ := checkIn_of_offendsIn hdepth hoffends
    obtain rfl := Except.error.inj (h.symm.trans herror)
    exact hoffends

end RenderOption

namespace RenderOptions

variable {va : Validator} {doc : Value}

/-- What an option is stored as. -/
def stored (o : RenderOptions) : RenderOption → Value
  | .strategy => .string o.strategy.name
  | .binary => o.binary.toValue
  | .version => .string o.version
  | .formats => .array (o.formats.map fun f => .string f.name)
  | .crop => .bool o.crop
  | .dpi => dpiToValue o.dpi
  | .midi => .bool o.midi
  | .wrap => .bool o.wrap

theorem entries_eq (o : RenderOptions) :
    o.entries = RenderOption.all.map fun option => (option.key, o.stored option) := rfl

/-- A document holds, under the key of every option, what the option is stored as. -/
def Spells (doc : Value) (o : RenderOptions) : Prop :=
  ∀ option : RenderOption, doc.get? option.key = some (o.stored option)

/-- Options are read from a document exactly if it spells them out. -/
theorem ofValue?_eq_some_iff_spells {o : RenderOptions} :
    ofValue? doc = some o ↔ Spells doc o := by
  rw [ofValue?_eq_some_iff, entries_eq, List.forall_mem_map]
  exact ⟨fun h option => h option option.mem_all, fun h option _ => h option⟩

/-- Options that keep the rules are stored as values that are admitted. -/
theorem admits_stored {o : RenderOptions} (h : OutputFormat.Rules o.formats)
    (option : RenderOption) : option.Admits (o.stored option) := by
  cases option with
  | strategy => exact ⟨_, rfl⟩
  | binary =>
    rw [stored]
    cases o.binary with
    | useEnv => exact .inr rfl
    | path p => exact .inl ⟨p, rfl⟩
  | version => exact ⟨_, rfl⟩
  | formats => exact ⟨_, h, rfl⟩
  | crop => exact ⟨_, rfl⟩
  | dpi =>
    rw [stored]
    cases o.dpi with
    | none => exact .inr rfl
    | some n => exact .inl ⟨n, rfl⟩
  | midi => exact ⟨_, rfl⟩
  | wrap => exact ⟨_, rfl⟩

/-- If every option is spelt, then the document spells out some options, which keep the rules. -/
theorem exists_spells (h : ∀ option : RenderOption, option.SpeltIn doc) :
    ∃ o, Spells doc o ∧ OutputFormat.Rules o.formats := by
  obtain ⟨_, hstrategy, strategy, rfl⟩ := h .strategy
  obtain ⟨binary, hbinary⟩ : ∃ b : Binary, doc.get? RenderOption.binary.key = some b.toValue := by
    obtain ⟨_, hv, ⟨path, rfl⟩ | rfl⟩ := h .binary
    · exact ⟨.path path, hv⟩
    · exact ⟨.useEnv, hv⟩
  obtain ⟨_, hversion, version, rfl⟩ := h .version
  obtain ⟨_, hformats, formats, hrules, rfl⟩ := h .formats
  obtain ⟨_, hcrop, crop, rfl⟩ := h .crop
  obtain ⟨dpi, hdpi⟩ : ∃ dpi : Option Number,
      doc.get? RenderOption.dpi.key = some (dpiToValue dpi) := by
    obtain ⟨_, hv, ⟨n, rfl⟩ | rfl⟩ := h .dpi
    · exact ⟨some n, hv⟩
    · exact ⟨none, hv⟩
  obtain ⟨_, hmidi, midi, rfl⟩ := h .midi
  obtain ⟨_, hwrap, wrap, rfl⟩ := h .wrap
  refine ⟨⟨strategy, binary, version, formats, crop, dpi, midi, wrap⟩, ?_, hrules⟩
  intro option
  cases option <;> assumption

/-- Whatever the limit is, every value that is accepted, be it an object or a function, spells out
    some options, which keep the rules. -/
theorem exists_spells_of_assert (h : (va.assert doc descriptor).outcome = .ok ()) :
    ∃ o, Spells doc o ∧ OutputFormat.Rules o.formats := by
  cases hholds : doc.holdsProperties with
  | false =>
    rw [RenderOption.assert_descriptor_of_not_holds va hholds] at h
    cases h
  | true =>
    rw [RenderOption.assert_descriptor_eq va hholds, Eval.outcome_forM_eq_ok_iff] at h
    exact exists_spells fun option => RenderOption.speltIn_of_checkIn (h option option.mem_all)

/-- The outcome of validation: the first failing check of an option, or else what the document is
    read as. -/
theorem outcome_validateComplete (va : Validator) (hobject : doc.isObject = true) :
    (validateComplete va doc).outcome =
      match (RenderOption.all.forM (RenderOption.checkIn va doc)).outcome with
      | .error failure => .error (OptionsError.factory.convert failure)
      | .ok () =>
        match ofValue? doc with
        | some o => .ok o
        | none => .error (.invalidOption ⟨.root, "object", some doc.received⟩) := by
  have hholds := Value.holdsProperties_of_isObject hobject
  have hdescriptor : view.descriptor = descriptor := rfl
  have hextract : view.extract doc = ofValue? doc := rfl
  rw [← RenderOption.assert_descriptor_eq va hholds, validateComplete, if_pos hobject,
    View.outcome_resolve, hdescriptor, hextract]
  cases ofValue? doc with
  | some o => rfl
  | none => rfl

/-- Documents that hold the same under the keys of the options have the same outcome. -/
theorem outcome_validateComplete_congr (va : Validator) {doc' : Value}
    (hobject : doc.isObject = true) (hobject' : doc'.isObject = true)
    (h : ∀ option : RenderOption, doc.get? option.key = doc'.get? option.key) :
    (validateComplete va doc).outcome = (validateComplete va doc').outcome := by
  have hchecks : RenderOption.checkIn va doc = RenderOption.checkIn va doc' := by
    funext option
    rw [RenderOption.checkIn, RenderOption.checkIn, h option]
  have hread : ofValue? doc = ofValue? doc' := by
    apply Option.ext
    intro o
    simp only [ofValue?_eq_some_iff_spells, Spells, h]
  have hreceived : doc.received = doc'.received := by
    rw [Value.received_of_isObject hobject, Value.received_of_isObject hobject']
  rw [outcome_validateComplete va hobject, outcome_validateComplete va hobject', hchecks, hread,
    hreceived]

/-- A document that is no object is refused before anything else. -/
theorem outcome_validateComplete_of_not_isObject (va : Validator) (hobject : doc.isObject = false) :
    (validateComplete va doc).outcome =
      .error (.invalidOption ⟨.root, "object", some doc.received⟩) := by
  rw [validateComplete, hobject]
  rfl

/-- Whatever the limit is, a document that is accepted spells out its result, which keeps the
    rules. -/
theorem spells_of_outcome {o : RenderOptions} (h : (validateComplete va doc).outcome = .ok o) :
    doc.isObject = true ∧ Spells doc o ∧ OutputFormat.Rules o.formats := by
  cases hobject : doc.isObject with
  | false =>
    rw [outcome_validateComplete_of_not_isObject va hobject] at h
    cases h
  | true =>
    rw [validateComplete, if_pos hobject, View.outcome_resolve_eq_ok_iff] at h
    obtain ⟨hok, hread⟩ := h
    -- the options that are read are those that every accepted value spells out
    obtain ⟨o', hspells, hrules⟩ := exists_spells_of_assert hok
    have hread' := ofValue?_eq_some_iff_spells.mpr hspells
    obtain rfl : o' = o := Option.some.inj (hread'.symm.trans hread)
    exact ⟨rfl, hspells, hrules⟩

/-- From a limit of three levels on: what is accepted, and with which result. -/
theorem outcome_validateComplete_eq_ok_iff (hdepth : 3 ≤ va.maxDepth) {o : RenderOptions} :
    (validateComplete va doc).outcome = .ok o ↔
      doc.isObject = true ∧ Spells doc o ∧ OutputFormat.Rules o.formats := by
  refine ⟨spells_of_outcome, ?_⟩
  rintro ⟨hobject, hspells, hrules⟩
  have hchecks : (RenderOption.all.forM (RenderOption.checkIn va doc)).outcome = .ok ⟨⟩ := by
    apply Eval.outcome_forM_eq_ok_iff.mpr
    intro option _
    exact (RenderOption.checkIn_eq_ok_iff hdepth).mpr
      ⟨o.stored option, hspells option, admits_stored hrules option⟩
  rw [outcome_validateComplete va hobject, hchecks, ofValue?_eq_some_iff_spells.mpr hspells]

/-- The error of a document that spells out no set of options: it is no object, or an option
    offends and all before it are spelt. -/
inductive Refused (doc : Value) : OptionsError → Prop
  | noObject (h : doc.isObject = false) :
      Refused doc (.invalidOption ⟨.root, "object", some doc.received⟩)
  | first {before after : List RenderOption} {option : RenderOption} {e : OptionsError}
      (hobject : doc.isObject = true) (horder : RenderOption.all = before ++ option :: after)
      (hbefore : ∀ earlier ∈ before, earlier.SpeltIn doc) (h : option.OffendsIn doc e) :
      Refused doc e

/-- From a limit of three levels on: what is refused, and with which error. -/
theorem outcome_validateComplete_eq_error_iff (hdepth : 3 ≤ va.maxDepth) {e : OptionsError} :
    (validateComplete va doc).outcome = .error e ↔ Refused doc e := by
  constructor
  · intro h
    cases hobject : doc.isObject with
    | false =>
      rw [outcome_validateComplete_of_not_isObject va hobject] at h
      cases h
      exact .noObject hobject
    | true =>
      match hchecks : (RenderOption.all.forM (RenderOption.checkIn va doc)).outcome with
      | .error failure =>
        obtain ⟨before, option, after, horder, hbefore, herror⟩ :=
          Eval.outcome_forM_eq_error_iff.mp hchecks
        rw [outcome_validateComplete va hobject, hchecks] at h
        cases h
        exact .first hobject horder
          (fun earlier hmem => (RenderOption.checkIn_eq_ok_iff hdepth).mp (hbefore earlier hmem))
          (RenderOption.offendsIn_of_checkIn hdepth herror)
      | .ok () =>
        -- every option is spelt, so the document is accepted after all
        have hall := Eval.outcome_forM_eq_ok_iff.mp hchecks
        obtain ⟨o, hspells, hrules⟩ := exists_spells fun option =>
          (RenderOption.checkIn_eq_ok_iff hdepth).mp (hall option option.mem_all)
        have hok := (outcome_validateComplete_eq_ok_iff hdepth).mpr ⟨hobject, hspells, hrules⟩
        exact nomatch h.symm.trans hok
  · intro h
    cases h with
    | noObject hobject => exact outcome_validateComplete_of_not_isObject va hobject
    | first hobject horder hbefore hoffends =>
      obtain ⟨failure, herror, hconvert⟩ := RenderOption.checkIn_of_offendsIn hdepth hoffends
      have hchecks := Eval.outcome_forM_eq_error_iff.mpr ⟨_, _, _, horder, fun earlier hmem =>
        (RenderOption.checkIn_eq_ok_iff hdepth).mpr (hbefore earlier hmem), herror⟩
      rw [outcome_validateComplete va hobject, hchecks, ← hconvert]

-- ════════════════════════════════════════════════════════════════════════
-- Main result
-- ════════════════════════════════════════════════════════════════════════

/-- From a limit of three levels on, validation decides the language of render options: no document
    ends in a fault, exactly the objects in which every option is spelt are accepted, the result is
    what they spell out, and the error of every other document is that of its first offence. -/
theorem validation_decides_language (hdepth : 3 ≤ va.maxDepth) (doc : Value) :
    (∀ fault, (validateComplete va doc).outcome ≠ .error (.fault fault)) ∧
    ((∃ o, (validateComplete va doc).outcome = .ok o) ↔
      doc.isObject = true ∧ ∀ option : RenderOption, option.SpeltIn doc) ∧
    (∀ o, (validateComplete va doc).outcome = .ok o → Spells doc o) ∧
    ∀ e, (validateComplete va doc).outcome = .error e ↔ Refused doc e := by
  refine ⟨?_, ?_, fun o h => (spells_of_outcome h).2.1,
    fun e => outcome_validateComplete_eq_error_iff hdepth⟩
  · intro fault h
    have hrefused := (outcome_validateComplete_eq_error_iff hdepth).mp h
    cases hrefused with
    | first _ _ _ hoffends => cases hoffends
  · constructor
    · rintro ⟨o, h⟩
      obtain ⟨hobject, hspells, hrules⟩ := spells_of_outcome h
      exact ⟨hobject, fun option =>
        ⟨o.stored option, hspells option, admits_stored hrules option⟩⟩
    · rintro ⟨hobject, hspelt⟩
      obtain ⟨o, hspells, hrules⟩ := exists_spells hspelt
      exact ⟨o, (outcome_validateComplete_eq_ok_iff hdepth).mpr ⟨hobject, hspells, hrules⟩⟩

/-- A document that names no format at its third place, and does not say whether to wrap. -/
def draft : Value :=
  .object ⟨[
    (.string "formats", .array [.string "png", .string "png", .string "gif", .null]),
    (.string "strategy", .string "img-png"),
    (.string "binary", .symbol .useEnvBinary),
    (.string "version", .string "2.24"),
    (.string "crop", .bool false),
    (.string "dpi", .null),
    (.string "midi", .bool false)]⟩

/-- The formats come before the wrapping, and the third item is the first that is unknown. -/
theorem validation_decides_language_draft :
    3 ≤ (⟨3, fun _ => none⟩ : Validator).maxDepth ∧
    (validateComplete ⟨3, fun _ => none⟩ draft).outcome =
      .error (.invalidOption ⟨⟨[.string "formats", .index 2]⟩, RenderOption.formatChoice,
        some (Value.string "gif").received⟩) ∧
    ¬ ∃ o, (validateComplete ⟨3, fun _ => none⟩ draft).outcome = .ok o := by
  have hdepth : 3 ≤ (⟨3, fun _ => none⟩ : Validator).maxDepth := by decide
  obtain ⟨-, haccepted, -, hrefused⟩ := validation_decides_language hdepth draft
  have horder : RenderOption.all =
      [.strategy, .binary, .version] ++ .formats :: [.crop, .dpi, .midi, .wrap] := rfl
  refine ⟨hdepth, (hrefused _).mpr (.first rfl horder ?_ (.invalid rfl ?_)), ?_⟩
  · intro earlier hearlier
    simp only [List.mem_cons, List.not_mem_nil, or_false] at hearlier
    rcases hearlier with rfl | rfl | rfl
    · exact ⟨_, rfl, .imgPng, rfl⟩
    · exact ⟨_, rfl, .inr rfl⟩
    · exact ⟨_, rfl, _, rfl⟩
  · apply RenderOption.Refuses.item [.png, .png] [.null]
    intro f hf
    cases f <;> exact absurd (Value.string.inj hf) (by decide)
  · rw [haccepted]
    rintro ⟨-, hspelt⟩
    obtain ⟨v, hv, -⟩ := hspelt .wrap
    cases hv

end RenderOptions

end Conform
