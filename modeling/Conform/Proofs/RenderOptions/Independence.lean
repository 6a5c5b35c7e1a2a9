import Conform.Proofs.RenderOptions.Merging

/-!
# Independence of everything but the options

Validation looks a document up under the keys of the eight options and reads nothing else of it, so
documents that hold the same there are not told apart, whatever else they hold and in which order
they store it. Laying documents over defaults keeps them the same. What a document already spells
out in full is what it holds over any defaults.

## Main definitions

- `RenderOptions.SameOptions` — two documents hold the same under the key of every option

## Main results

- `RenderOptions.SameOptions.mergeOver` — they still do when they are laid over the same options
- `RenderOptions.sameOptions_mergeOver` — a document with every option hides what it is laid over
- `RenderOptions.outcome_depends_only_on_options` — nothing else of a document shows in the outcome
-/

namespace Conform.RenderOptions

/-- Two documents hold the same under the key of every option: the same value, or nothing. -/
def SameOptions (doc doc' : Value) : Prop :=
  ∀ option : RenderOption, doc.get? option.key = doc'.get? option.key

section SameOptions

variable {es fs : Entries Value}

theorem sameOptions_object_iff :
    SameOptions (.object es) (.object fs) ↔
      ∀ option : RenderOption, es.get? option.key = fs.get? option.key := by
  simp only [SameOptions, RenderOption.get?_object]

/-- Documents with the same entries under the keys of the options hold the same there, in whatever
    order and among whatever other entries they store them. -/
theorem sameOptions_of_mem_iff (hes : es.Keyed) (hfs : fs.Keyed)
    (h : ∀ entry, entry.1 ∈ fields.keys → (entry ∈ es.toList ↔ entry ∈ fs.toList)) :
    SameOptions (.object es) (.object fs) := by
  rw [sameOptions_object_iff]
  intro option
  have hkey : option.key ∈ fields.keys := by cases option <;> decide
  apply Option.ext
  intro v
  rw [hes.get?_eq_some_iff, hfs.get?_eq_some_iff]
  exact h (option.key, v) hkey

/-- Documents that hold the same do so over the same options as well. -/
theorem SameOptions.mergeOver (o : RenderOptions) (hes : es.Keyed) (hfs : fs.Keyed)
    (h : SameOptions (.object es) (.object fs)) :
    SameOptions (RenderOptions.mergeOver (.object es) o)
      (RenderOptions.mergeOver (.object fs) o) := by
  rw [sameOptions_object_iff] at h
  intro option
  rw [get?_mergeOver o hes, get?_mergeOver o hfs, valueOver, valueOver, h option]

/-- A document that holds every option holds the same over any options. -/
theorem sameOptions_mergeOver (o : RenderOptions) (hes : es.Keyed)
    (hfull : ∀ option : RenderOption, (Value.object es).has option.key = true) :
    SameOptions (RenderOptions.mergeOver (.object es) o) (.object es) := by
  intro option
  obtain ⟨v, hv⟩ := Option.isSome_iff_exists.mp (hfull option)
  rw [get?_mergeOver o hes, valueOver, hv]
  rw [RenderOption.get?_object] at hv
  rw [hv, Option.getD_some]

end SameOptions

/-- The outcome of validation depends on nothing but what a document holds under the keys of the
    options, whatever the limit is: neither other keys nor the order of the entries show in a
    result, a report or a fault, with defaults and without. A document that holds every option, and
    one that is no object, have the same outcome either way. Documents store each key once. -/
theorem outcome_depends_only_on_options (va : Validator) :
    (∀ es fs : Entries Value, SameOptions (.object es) (.object fs) →
      (validateComplete va (.object es)).outcome = (validateComplete va (.object fs)).outcome) ∧
    (∀ es fs : Entries Value, es.Keyed → fs.Keyed → SameOptions (.object es) (.object fs) →
      (validate va (.object es)).outcome = (validate va (.object fs)).outcome) ∧
    (∀ es fs : Entries Value, es.Keyed → fs.Keyed →
      (∀ entry, entry.1 ∈ fields.keys → (entry ∈ es.toList ↔ entry ∈ fs.toList)) →
      (validateComplete va (.object es)).outcome = (validateComplete va (.object fs)).outcome ∧
      (validate va (.object es)).outcome = (validate va (.object fs)).outcome) ∧
    ∀ doc : Value,
      (∀ es, doc = .object es →
        es.Keyed ∧ ∀ option : RenderOption, doc.has option.key = true) →
      (validate va doc).outcome = (validateComplete va doc).outcome := by
  have hcomplete {es fs : Entries Value} (h : SameOptions (.object es) (.object fs)) :
      (validateComplete va (.object es)).outcome = (validateComplete va (.object fs)).outcome :=
    outcome_validateComplete_congr va rfl rfl h
  have hover {es fs : Entries Value} (hes : es.Keyed) (hfs : fs.Keyed)
      (h : SameOptions (.object es) (.object fs)) :
      (validate va (.object es)).outcome = (validate va (.object fs)).outcome :=
    outcome_validateComplete_congr va rfl rfl (h.mergeOver default hes hfs)
  refine ⟨fun es fs => hcomplete, fun es fs => hover, ?_, ?_⟩
  · intro es fs hes hfs hentries
    have hsame := sameOptions_of_mem_iff hes hfs hentries
    exact ⟨hcomplete hsame, hover hes hfs hsame⟩
  · intro doc hdoc
    cases doc with
    | object es =>
      obtain ⟨hes, hfull⟩ := hdoc es rfl
      exact outcome_validateComplete_congr va rfl rfl (sameOptions_mergeOver default hes hfull)
    | _ => rfl

/-- A wish for a blurred picture, after a key that is no option. -/
def wish : Entries Value :=
  ⟨[(.index 2, .null), (.string "dpi", .string "high"), (.string "crop", .bool false)]⟩

/-- The same wish in another order, before other keys that are no options. -/
def wishAgain : Entries Value :=
  ⟨[(.string "crop", .bool false), (.string "dpi", .string "high"),
    (.symbol .useEnvBinary, .array []), (.string "2", .bool true)]⟩

/-- Alone both wishes lack a strategy; over the defaults one level is too few for the renderer, and
    three are enough to get to the resolution. -/
theorem outcome_depends_only_on_options_wish :
    wish.Keyed ∧ wishAgain.Keyed ∧ SameOptions (.object wish) (.object wishAgain) ∧
    (validateComplete ⟨0, fun _ => none⟩ (.object wishAgain)).outcome =
      .error (.missingOption ⟨⟨[.string "strategy"]⟩, RenderOption.strategy.expectation, none⟩) ∧
    (validate ⟨1, fun _ => none⟩ (.object wishAgain)).outcome =
      .error (.fault (.depthExceeded ⟨[.string "binary"]⟩ 1)) ∧
    (validate ⟨3, fun _ => none⟩ (.object wishAgain)).outcome =
      .error (.invalidOption ⟨⟨[.string "dpi"]⟩, RenderOption.dpi.expectation,
        some (Value.string "high").received⟩) ∧
    (validate ⟨1, fun _ => none⟩ default.toValue).outcome =
      .error (.fault (.depthExceeded ⟨[.string "binary"]⟩ 1)) := by
  have hwish : wish.Keyed := by
    show (wish.toList.map Prod.fst).Nodup
    decide
  have hagain : wishAgain.Keyed := by
    show (wishAgain.toList.map Prod.fst).Nodup
    decide
  have hsame : SameOptions (.object wish) (.object wishAgain) := by
    intro option
    cases option <;> rfl
  obtain ⟨hcomplete, -⟩ := outcome_depends_only_on_options ⟨0, fun _ => none⟩
  obtain ⟨-, hone, -, hfull⟩ := outcome_depends_only_on_options ⟨1, fun _ => none⟩
  obtain ⟨-, hthree, -⟩ := outcome_depends_only_on_options ⟨3, fun _ => none⟩
  refine ⟨hwish, hagain, hsame, (hcomplete _ _ hsame).symm.trans rfl,
    (hone _ _ hwish hagain hsame).symm.trans rfl, (hthree _ _ hwish hagain hsame).symm.trans rfl,
    (hfull _ ?_).trans rfl⟩
  rintro es ⟨⟩
  refine ⟨RenderOption.nodup_keys, fun option => ?_⟩
  cases option <;> rfl

end Conform.RenderOptions
