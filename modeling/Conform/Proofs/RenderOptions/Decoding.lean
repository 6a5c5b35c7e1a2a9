import Conform.RenderOptions.Descriptor

/-!
# Reading render options from values

Each option is stored as one value and read back from it. The two directions are written apart: a
reader accepts a value exactly if the value is what the option is stored as, so a document spells
out some options exactly if it holds what these are stored as, key by key.

## Main results

- `Strategy.named?_eq_some_iff`, `OutputFormat.named?_eq_some_iff` — names tell their owners
- `OutputFormat.mapM_ofValue?_eq_some_iff` — a list of formats is read exactly from their names
- `RenderOptions.ofValue?_eq_some_iff` — options are read exactly from what they are stored as
-/

namespace Conform

-- ════════════════════════════════════════════════════════════════════════
-- Scalars
-- ════════════════════════════════════════════════════════════════════════

namespace Value

theorem asString?_eq_some_iff {v : Value} {s : String} : v.asString? = some s ↔ v = .string s := by
  cases v <;> simp [asString?]

theorem asBool?_eq_some_iff {v : Value} {b : Bool} : v.asBool? = some b ↔ v = .bool b := by
  cases v <;> simp [asBool?]

theorem asNumber?_eq_some_iff {v : Value} {n : Number} : v.asNumber? = some n ↔ v = .number n := by
  cases v <;> simp [asNumber?]

theorem asBigint?_eq_some_iff {v : Value} {n : Int} : v.asBigint? = some n ↔ v = .bigint n := by
  cases v <;> simp [asBigint?]

theorem asSymbol?_eq_some_iff {v : Value} {s : Symbol} : v.asSymbol? = some s ↔ v = .symbol s := by
  cases v <;> simp [asSymbol?]

theorem asArray?_eq_some_iff {v : Value} {items : List Value} :
    v.asArray? = some items ↔ v = .array items := by
  cases v <;> simp [asArray?]

end Value

namespace Primitive

theorem test_string_iff {v : Value} : string.test v = true ↔ ∃ s, v = .string s := by
  cases v <;> simp [test, Value.kind]

theorem test_boolean_iff {v : Value} : boolean.test v = true ↔ ∃ b, v = .bool b := by
  cases v <;> simp [test, Value.kind]

theorem test_number_iff {v : Value} : number.test v = true ↔ ∃ n, v = .number n := by
  cases v <;> simp [test, Value.kind]

theorem test_bigint_iff {v : Value} : bigint.test v = true ↔ ∃ n, v = .bigint n := by
  cases v <;> simp [test, Value.kind]

theorem test_symbol_iff {v : Value} : symbol.test v = true ↔ ∃ s, v = .symbol s := by
  cases v <;> simp [test, Value.kind]

theorem test_null_iff {v : Value} : null.test v = true ↔ v = .null := by
  cases v <;> simp [test, Value.kind]

end Primitive

-- ════════════════════════════════════════════════════════════════════════
-- Names
-- ════════════════════════════════════════════════════════════════════════

/-- A name is read as a strategy exactly if it is the strategy's name. -/
theorem Strategy.named?_eq_some_iff {name : String} {s : Strategy} :
    named? name = some s ↔ name = s.name := by
  constructor
  · intro h
    have hname := List.find?_some h
    exact (beq_iff_eq.mp hname).symm
  · rintro rfl
    cases s <;> rfl

theorem Strategy.ofValue?_eq_some_iff {v : Value} {s : Strategy} :
    ofValue? v = some s ↔ v = .string s.name := by
  simp only [ofValue?, Option.bind_eq_some_iff, Value.asString?_eq_some_iff, named?_eq_some_iff,
    exists_eq_right]

/-- A name is read as a format exactly if it is the format's name. -/
theorem OutputFormat.named?_eq_some_iff {name : String} {f : OutputFormat} :
    named? name = some f ↔ name = f.name := by
  constructor
  · intro h
    have hname := List.find?_some h
    exact (beq_iff_eq.mp hname).symm
  · rintro rfl
    cases f <;> rfl

theorem OutputFormat.ofValue?_eq_some_iff {v : Value} {f : OutputFormat} :
    ofValue? v = some f ↔ v = .string f.name := by
  simp only [ofValue?, Option.bind_eq_some_iff, Value.asString?_eq_some_iff, named?_eq_some_iff,
    exists_eq_right]

/-- A list of values is read as formats exactly if it is the list of their names. -/
theorem OutputFormat.mapM_ofValue?_eq_some_iff {items : List Value}
    {formats : List OutputFormat} :
    items.mapM ofValue? = some formats ↔ items = formats.map fun f => .string f.name := by
  induction items generalizing formats with
  | nil =>
    rw [List.mapM_nil]
    cases formats <;> simp
  | cons item items ih =>
    simp only [List.mapM_cons, Option.bind_eq_bind, Option.bind_eq_some_iff, Option.pure_def,
      Option.some.injEq, ofValue?_eq_some_iff, ih]
    constructor
    · rintro ⟨f, rfl, fs, rfl, rfl⟩
      rfl
    · intro h
      cases formats with
      | nil => cases h
      | cons f fs =>
        rw [List.map_cons, List.cons.injEq] at h
        exact ⟨f, h.1, fs, h.2, rfl⟩

-- ════════════════════════════════════════════════════════════════════════
-- Options
-- ════════════════════════════════════════════════════════════════════════

namespace RenderOptions

theorem binaryOfValue?_eq_some_iff {v : Value} {b : Binary} :
    binaryOfValue? v = some b ↔ v = b.toValue := by
  cases b <;> cases v <;> simp [binaryOfValue?, Binary.toValue]

theorem dpiOfValue?_eq_some_iff {v : Value} {dpi : Option Number} :
    dpiOfValue? v = some dpi ↔ v = dpiToValue dpi := by
  cases dpi <;> cases v <;> simp [dpiOfValue?, dpiToValue]

/-- To go on with what is read under a key is to find what it is stored as. -/
theorem bind_read_eq_some_iff {α β : Type} {read : Value → Option α} {store : α → Value}
    (hread : ∀ {x : Value} {a : α}, read x = some a ↔ x = store a) {v : Value} {key : PropertyKey}
    {next : α → Option β} {b : β} :
    ((v.get? key).bind fun x => (read x).bind next) = some b ↔
      ∃ a, v.get? key = some (store a) ∧ next a = some b := by
  constructor
  · intro h
    obtain ⟨x, hx, h⟩ := Option.bind_eq_some_iff.mp h
    obtain ⟨a, ha, hnext⟩ := Option.bind_eq_some_iff.mp h
    obtain rfl := hread.mp ha
    exact ⟨a, hx, hnext⟩
  · rintro ⟨a, ha, hnext⟩
    rw [ha, Option.bind_some, hread.mpr rfl, Option.bind_some, hnext]

/-- Options are read from a document exactly if it holds what they are stored as, key by key. -/
theorem ofValue?_eq_some_iff {v : Value} {o : RenderOptions} :
    ofValue? v = some o ↔ ∀ entry ∈ o.entries, v.get? entry.1 = some entry.2 := by
  constructor
  · intro h
    obtain ⟨binary, hbinary, h⟩ := (bind_read_eq_some_iff binaryOfValue?_eq_some_iff).mp h
    obtain ⟨items, hitems, h⟩ := (bind_read_eq_some_iff Value.asArray?_eq_some_iff).mp h
    obtain ⟨formats, hformats, h⟩ := Option.bind_eq_some_iff.mp h
    obtain ⟨dpi, hdpi, h⟩ := (bind_read_eq_some_iff dpiOfValue?_eq_some_iff).mp h
    obtain ⟨strategy, hstrategy, h⟩ :=
      (bind_read_eq_some_iff Strategy.ofValue?_eq_some_iff).mp h
    obtain ⟨version, hversion, h⟩ := (bind_read_eq_some_iff Value.asString?_eq_some_iff).mp h
    obtain ⟨crop, hcrop, h⟩ := (bind_read_eq_some_iff Value.asBool?_eq_some_iff).mp h
    obtain ⟨midi, hmidi, h⟩ := (bind_read_eq_some_iff Value.asBool?_eq_some_iff).mp h
    obtain ⟨wrap, hwrap, h⟩ := (bind_read_eq_some_iff Value.asBool?_eq_some_iff).mp h
    obtain rfl := Option.some.inj h
    obtain rfl := OutputFormat.mapM_ofValue?_eq_some_iff.mp hformats
    simp only [entries, List.forall_mem_cons]
    exact ⟨hstrategy, hbinary, hversion, hitems, hcrop, hdpi, hmidi, hwrap, fun _ h => nomatch h⟩
  · intro h
    simp only [entries, List.forall_mem_cons] at h
    obtain ⟨hstrategy, hbinary, hversion, hformats, hcrop, hdpi, hmidi, hwrap, -⟩ := h
    apply (bind_read_eq_some_iff binaryOfValue?_eq_some_iff).mpr
    refine ⟨o.binary, hbinary, ?_⟩
    apply (bind_read_eq_some_iff Value.asArray?_eq_some_iff).mpr
    refine ⟨_, hformats, ?_⟩
    apply Option.bind_eq_some_iff.mpr
    refine ⟨o.formats, OutputFormat.mapM_ofValue?_eq_some_iff.mpr rfl, ?_⟩
    apply (bind_read_eq_some_iff dpiOfValue?_eq_some_iff).mpr
    refine ⟨o.dpi, hdpi, ?_⟩
    apply (bind_read_eq_some_iff Strategy.ofValue?_eq_some_iff).mpr
    refine ⟨o.strategy, hstrategy, ?_⟩
    apply (bind_read_eq_some_iff Value.asString?_eq_some_iff).mpr
    refine ⟨o.version, hversion, ?_⟩
    apply (bind_read_eq_some_iff Value.asBool?_eq_some_iff).mpr
    refine ⟨o.crop, hcrop, ?_⟩
    apply (bind_read_eq_some_iff Value.asBool?_eq_some_iff).mpr
    refine ⟨o.midi, hmidi, ?_⟩
    apply (bind_read_eq_some_iff Value.asBool?_eq_some_iff).mpr
    exact ⟨o.wrap, hwrap, rfl⟩

end RenderOptions

end Conform
