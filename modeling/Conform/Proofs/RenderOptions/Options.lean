import Conform.Proofs.Evaluation.Judgement
import Conform.Proofs.Evaluation.Limit
import Conform.Proofs.RenderOptions.Formats

/-!
# Render options one by one

The values that each of the eight options admits, and the report about every other value. Two
levels below an option are enough to tell them apart: one for the members of a union or the list of
formats, and one for the formats themselves.

## Main definitions

- `RenderOption` — the eight options, in the order in which they are checked
- `RenderOption.Admits` — the values that an option can have
- `RenderOption.Refuses` — the report about a value that it cannot have

## Main results

- `RenderOption.admits_or_refuses` — no value is left undecided
- `RenderOption.assert_of_admits`, `RenderOption.assert_of_refuses` — assertions decide alike
- `RenderOption.rules_of_assert` — formats are never accepted against the rules
- `RenderOption.admits_of_assert` — nothing else is ever accepted, whatever the limit is
-/

namespace Conform

/-- The options that a document spells out. -/
inductive RenderOption where
  | strategy | binary | version | formats | crop | dpi | midi | wrap
deriving DecidableEq, Repr

namespace RenderOption

/-- The options in the order in which they are checked. -/
def all : List RenderOption := [strategy, binary, version, formats, crop, dpi, midi, wrap]

/-- The key under which a document holds an option. -/
def key : RenderOption → PropertyKey
  | strategy => .string "strategy"
  | binary => .string "binary"
  | version => .string "version"
  | formats => .string "formats"
  | crop => .string "crop"
  | dpi => .string "dpi"
  | midi => .string "midi"
  | wrap => .string "wrap"

theorem mem_all (option : RenderOption) : option ∈ all := by
  cases option <;> decide

theorem nodup_keys : (all.map key).Nodup := by decide

/-- The names of the formats as a choice. -/
def formatChoice : String :=
  "'eps' | 'jpeg' | 'midi' | 'oga' | 'opus' | 'pdf' | 'png' | 'ps' | 'svg' | 'wav'"

/-- What the value of an option is expected to be, in the words of its reports. -/
def expectation : RenderOption → String
  | strategy => "'img-svg' | 'img-png' | 'inline-svg'"
  | binary => "string | symbol(USE_ENV_BINARY)"
  | version => "string"
  | formats => "array<" ++ formatChoice ++ ">"
  | crop | midi | wrap => "boolean"
  | dpi => "number | null"

/-- The values that an option can have. -/
def Admits : RenderOption → Value → Prop
  | strategy, v => ∃ s : Strategy, v = .string s.name
  | binary, v => (∃ path, v = .string path) ∨ v = .symbol .useEnvBinary
  | version, v => ∃ text, v = .string text
  | formats, v => ∃ fs, OutputFormat.Rules fs ∧ v = .array (fs.map fun f => .string f.name)
  | dpi, v => (∃ n, v = .number n) ∨ v = .null
  | crop, v | midi, v | wrap, v => ∃ b, v = .bool b

/-- The report about a value, found at a path, that an option cannot have. -/
inductive Refuses (path : Path) : RenderOption → Value → Report → Prop
  /-- The value as a whole is none of those that are expected. -/
  | whole {option : RenderOption} {v : Value} (h : ¬ option.Admits v)
      (hitems : option = formats → v.asArray? = none) :
      Refuses path option v ⟨path, option.expectation, some v.received⟩
  /-- An item names no format, and all before it do. -/
  | item (fs : List OutputFormat) {item : Value} (rest : List Value)
      (h : ∀ f : OutputFormat, item ≠ .string f.name) :
      Refuses path formats (.array ((fs.map fun f => .string f.name) ++ item :: rest))
        ⟨path.child (.index fs.length), formatChoice, some item.received⟩
  /-- Every item names a format, and a rule across them is offended. -/
  | rule {fs : List OutputFormat} {text : String} (h : OutputFormat.Offence fs text) :
      Refuses path formats (.array (fs.map fun f => .string f.name))
        ⟨path, text, some (Value.array (fs.map fun f => .string f.name)).received⟩

theorem admits_or_refuses (path : Path) (option : RenderOption) (v : Value) :
    option.Admits v ∨ ∃ r, option.Refuses path v r := by
  by_cases hadmits : option.Admits v
  · exact .inl hadmits
  · right
    by_cases hitems : option = formats → v.asArray? = none
    · exact ⟨_, .whole hadmits hitems⟩
    · -- an array of formats that is refused for its items or for the rules across them
      obtain ⟨rfl, harray⟩ := Classical.not_imp.mp hitems
      obtain ⟨items, hsome⟩ := Option.ne_none_iff_exists'.mp harray
      obtain rfl := Value.asArray?_eq_some_iff.mp hsome
      rcases OutputFormat.names_or_unknown items with ⟨fs, rfl⟩ | ⟨fs, item, rest, rfl, hitem⟩
      · match hcomplaint : RenderOptions.formatsComplaint? fs with
        | none =>
          exact absurd ⟨fs, OutputFormat.formatsComplaint?_eq_none_iff.mp hcomplaint, rfl⟩ hadmits
        | some text =>
          exact ⟨_, .rule (OutputFormat.formatsComplaint?_eq_some_iff.mp hcomplaint)⟩
      · exact ⟨_, .item fs rest hitem⟩

/-- What the descriptor says about an option. -/
def descriptor : RenderOption → Descriptor
  | strategy => .guard RenderOptions.strategyGuard
  | binary => .union [.primitive .string, .literal .useEnvBinary]
  | version => .primitive .string
  | formats => .guard RenderOptions.formatsGuard
  | crop => .primitive .boolean
  | dpi => .union [.primitive .number, .primitive .null]
  | midi => .primitive .boolean
  | wrap => .primitive .boolean

theorem fields_eq :
    RenderOptions.fields.toList = all.map fun option => (option.key, option.descriptor) := rfl

theorem render_descriptor (option : RenderOption) :
    option.descriptor.render = option.expectation := by
  cases option <;> rfl

/-- Apart from the strategy and the formats no option is looked at by a guard. -/
theorem guardFree_descriptor {option : RenderOption} (hstrategy : option ≠ strategy)
    (hformats : option ≠ formats) : option.descriptor.GuardFree := by
  cases option with
  | strategy => exact absurd rfl hstrategy
  | formats => exact absurd rfl hformats
  | binary | version | crop | dpi | midi | wrap => simp [descriptor, Descriptor.GuardFree]

/-- What conforms to the descriptor of such an option is what the option admits. -/
theorem conforms_iff_admits {verdict : Guard Descriptor → Value → Bool} {option : RenderOption}
    (hstrategy : option ≠ strategy) (hformats : option ≠ formats) {v : Value} :
    Conforms verdict v option.descriptor ↔ option.Admits v := by
  cases option with
  | strategy => exact absurd rfl hstrategy
  | formats => exact absurd rfl hformats
  | binary =>
    simp only [descriptor, conforms_union, List.mem_cons, List.not_mem_nil, or_false,
      exists_eq_or_imp, exists_eq_left, conforms_primitive, conforms_literal,
      Primitive.test_string_iff]
    exact Iff.rfl
  | dpi =>
    simp only [descriptor, conforms_union, List.mem_cons, List.not_mem_nil, or_false,
      exists_eq_or_imp, exists_eq_left, conforms_primitive, Primitive.test_number_iff,
      Primitive.test_null_iff]
    exact Iff.rfl
  | version => exact conforms_primitive.trans Primitive.test_string_iff
  | crop | midi | wrap => exact conforms_primitive.trans Primitive.test_boolean_iff

-- ════════════════════════════════════════════════════════════════════════
-- The assertion of an option
-- ════════════════════════════════════════════════════════════════════════

variable {va : Validator} {depth : Nat} {path : Path}

theorem judges_item (hdepth : depth ≤ va.maxDepth) (item : Value) (path : Path) :
    Judges ((va.levelAt depth).assert item (.guard RenderOptions.formatGuard) path).outcome
      (∃ f : OutputFormat, item = .string f.name)
      ⟨path, formatChoice, some item.received⟩ := by
  apply Judges.reader OutputFormat.ofValue? hdepth
  · intro v path
    simp only [RenderOptions.formatGuard]
    cases OutputFormat.ofValue? v <;> rfl
  · simp only [OutputFormat.ofValue?_eq_some_iff]

theorem assert_items_eq (hdepth : depth ≤ va.maxDepth) (items : List Value) (path : Path) :
    ((va.levelAt depth).assert (.array items) (.arrayOf (.guard RenderOptions.formatGuard))
      path).outcome =
      (items.zipIdx.forM fun entry => (va.levelAt (depth + 1)).assert entry.1
        (.guard RenderOptions.formatGuard) (path.child (.index entry.2))).outcome :=
  Validator.outcome_assert_of_le hdepth _ _ path

theorem assert_items_names (hdepth : depth + 1 ≤ va.maxDepth) (fs : List OutputFormat)
    (path : Path) :
    ∀ entry ∈ (fs.map fun f => Value.string f.name).zipIdx,
      ((va.levelAt (depth + 1)).assert entry.1 (.guard RenderOptions.formatGuard)
        (path.child (.index entry.2))).outcome = .ok () := by
  intro entry hentry
  obtain ⟨f, -, hf⟩ := List.mem_map.mp (List.fst_mem_of_mem_zipIdx hentry)
  exact (judges_item hdepth entry.1 (path.child (.index entry.2))).ok ⟨f, hf.symm⟩

theorem assert_items_unknown (hdepth : depth + 1 ≤ va.maxDepth) (fs : List OutputFormat)
    {item : Value} (rest : List Value) (h : ∀ f : OutputFormat, item ≠ .string f.name) :
    ((va.levelAt depth).assert (.array ((fs.map fun f => .string f.name) ++ item :: rest))
      (.arrayOf (.guard RenderOptions.formatGuard)) path).outcome =
      .error (.invalidType
        ⟨path.child (.index fs.length), formatChoice, some item.received⟩) := by
  rw [assert_items_eq (by omega), Eval.outcome_forM_eq_error_iff]
  -- the items before the unknown one are its predecessors in the numbered list
  refine ⟨_, (item, fs.length), rest.zipIdx (fs.length + 1), ?_,
    assert_items_names hdepth fs path, ?_⟩
  · rw [List.zipIdx_append, List.zipIdx_cons, List.length_map, Nat.zero_add]
  · exact (judges_item hdepth item (path.child (.index fs.length))).error fun ⟨f, hf⟩ => h f hf

/-- An array of formats is asserted first, and then the rules across it are looked at. -/
theorem assert_formats_eq (hdepth : depth ≤ va.maxDepth) (v : Value) (path : Path) :
    ((va.levelAt depth).assert v (.guard RenderOptions.formatsGuard) path).outcome =
      ((va.levelAt (depth + 1)).assert v (.arrayOf (.guard RenderOptions.formatGuard))
        path).outcome >>= fun _ =>
        match RenderOptions.formatsComplaint?
            ((v.asArray?.getD []).filterMap OutputFormat.ofValue?) with
        | some text => .error (.unexpected path text v)
        | none => .ok () := by
  rw [Validator.outcome_assert_of_le hdepth]
  simp only [Scope.assertHere, Eval.outcome_bind, Guard.call_eq, RenderOptions.formatsGuard,
    Program.require, Program.run_check, Scope.check, Scope.resolve, Scope.place,
    Validator.scopeAt]
  cases ((va.levelAt (depth + 1)).assert v (.arrayOf (.guard RenderOptions.formatGuard))
      path).outcome with
  | error failure => rfl
  | ok _ =>
    cases RenderOptions.formatsComplaint?
        ((v.asArray?.getD []).filterMap OutputFormat.ofValue?) with
    | some text => rfl
    | none => rfl

/-- Of an array that names formats only the rules are left to look at. -/
theorem assert_formats_names (hdepth : depth + 2 ≤ va.maxDepth) (fs : List OutputFormat)
    (path : Path) :
    ((va.levelAt depth).assert (.array (fs.map fun f => .string f.name))
      (.guard RenderOptions.formatsGuard) path).outcome =
      match RenderOptions.formatsComplaint? fs with
      | some text => .error (.unexpected path text (.array (fs.map fun f => .string f.name)))
      | none => .ok () := by
  have hitems := Eval.outcome_forM_eq_ok_iff.mpr (assert_items_names hdepth fs path)
  rw [assert_formats_eq (by omega), assert_items_eq (by omega), hitems, Value.asArray?,
    Option.getD_some, OutputFormat.filterMap_ofValue?_names]
  rfl

/-- Formats that are accepted, at whatever depth, keep the rules. -/
theorem rules_of_assert {fs : List OutputFormat}
    (h : ((va.levelAt depth).assert (.array (fs.map fun f => .string f.name))
      (.guard RenderOptions.formatsGuard) path).outcome = .ok ()) : OutputFormat.Rules fs := by
  rw [assert_formats_eq (Validator.le_of_assert h), Value.asArray?, Option.getD_some,
    OutputFormat.filterMap_ofValue?_names] at h
  cases hitems : ((va.levelAt (depth + 1)).assert (.array (fs.map fun f => .string f.name))
      (.arrayOf (.guard RenderOptions.formatGuard)) path).outcome with
  | error failure =>
    rw [hitems] at h
    cases h
  | ok _ =>
    rw [hitems] at h
    cases hcomplaint : RenderOptions.formatsComplaint? fs with
    | none => exact OutputFormat.formatsComplaint?_eq_none_iff.mp hcomplaint
    | some text =>
      rw [hcomplaint] at h
      cases h

theorem judges_strategy (hdepth : depth ≤ va.maxDepth) (v : Value) (path : Path) :
    Judges ((va.levelAt depth).assert v strategy.descriptor path).outcome (strategy.Admits v)
      ⟨path, strategy.expectation, some v.received⟩ := by
  apply Judges.reader Strategy.ofValue? hdepth
  · intro v path
    simp only [RenderOptions.strategyGuard]
    cases Strategy.ofValue? v <;> rfl
  · simp only [Strategy.ofValue?_eq_some_iff]
    exact Iff.rfl

/-- The options apart from the formats have one report each. -/
theorem judges_plain {option : RenderOption} (hoption : option ≠ formats)
    (hdepth : depth + 1 ≤ va.maxDepth) (v : Value) (path : Path) :
    Judges ((va.levelAt depth).assert v option.descriptor path).outcome (option.Admits v)
      ⟨path, option.expectation, some v.received⟩ := by
  have hhere : depth ≤ va.maxDepth := by omega
  have hunion (members : List Descriptor) (h : (Descriptor.union members).height = 1) :
      (Descriptor.union members).height + depth ≤ va.maxDepth := by omega
  cases option with
  | strategy => exact judges_strategy hhere v path
  | formats => exact absurd rfl hoption
  | binary =>
    have hconforms : Conforms (fun _ _ => true) v binary.descriptor ↔ binary.Admits v :=
      conforms_iff_admits (by decide) (by decide)
    exact Judges.union _ (by simp) (hunion _ rfl) hconforms
  | dpi =>
    have hconforms : Conforms (fun _ _ => true) v dpi.descriptor ↔ dpi.Admits v :=
      conforms_iff_admits (by decide) (by decide)
    exact Judges.union _ (by simp) (hunion _ rfl) hconforms
  | version => exact Judges.primitive hhere Primitive.test_string_iff
  | crop | midi | wrap => exact Judges.primitive hhere Primitive.test_boolean_iff

/-- Two levels below an option suffice to accept every value that it admits. -/
theorem assert_of_admits (hdepth : depth + 2 ≤ va.maxDepth) {option : RenderOption} {v : Value}
    (h : option.Admits v) (path : Path) :
    ((va.levelAt depth).assert v option.descriptor path).outcome = .ok () := by
  by_cases hoption : option = formats
  · subst hoption
    obtain ⟨fs, hrules, rfl⟩ := h
    rw [descriptor, assert_formats_names hdepth,
      OutputFormat.formatsComplaint?_eq_none_iff.mpr hrules]
  · have hbelow : depth + 1 ≤ va.maxDepth := by omega
    exact (judges_plain hoption hbelow v path).ok h

/-- They suffice as well to report every value that it refuses. -/
theorem assert_of_refuses (hdepth : depth + 2 ≤ va.maxDepth) {option : RenderOption} {v : Value}
    {r : Report} (h : option.Refuses path v r) :
    ((va.levelAt depth).assert v option.descriptor path).outcome = .error (.invalidType r) := by
  have hhere : depth ≤ va.maxDepth := by omega
  have hbelow : depth + 1 ≤ va.maxDepth := by omega
  cases h with
  | whole hno hitems =>
    by_cases hoption : option = formats
    · subst hoption
      rw [descriptor, assert_formats_eq hhere, Validator.outcome_assert_of_le hbelow]
      cases v with
      | array items => cases hitems rfl
      | _ => rfl
    · exact (judges_plain hoption hbelow _ path).error hno
  | item fs rest hitem =>
    rw [descriptor, assert_formats_eq hhere, assert_items_unknown hdepth fs rest hitem]
    rfl
  | rule hoffence =>
    rw [descriptor, assert_formats_names hdepth,
      OutputFormat.formatsComplaint?_eq_some_iff.mpr hoffence]
    rfl

-- ════════════════════════════════════════════════════════════════════════
-- Any limit
-- ════════════════════════════════════════════════════════════════════════

/-- Items that are accepted, at whatever depth, name formats. -/
theorem names_of_assert_items {items : List Value}
    (h : ((va.levelAt depth).assert (.array items) (.arrayOf (.guard RenderOptions.formatGuard))
      path).outcome = .ok ()) :
    ∃ fs : List OutputFormat, items = fs.map fun f => .string f.name := by
  rw [assert_items_eq (Validator.le_of_assert h), Eval.outcome_forM_eq_ok_iff] at h
  have hnamed : ∀ item ∈ items, ∃ f : OutputFormat, item = .string f.name := by
    refine forall_mem_zipIdx.mp fun entry hentry => ?_
    have hok := h entry hentry
    exact (judges_item (Validator.le_of_assert hok) _ _).of_ok hok
  rcases OutputFormat.names_or_unknown items with hnames | ⟨fs, item, rest, rfl, hunknown⟩
  · exact hnames
  · obtain ⟨f, hf⟩ := hnamed item (List.mem_append_right _ List.mem_cons_self)
    exact absurd hf (hunknown f)

/-- Whatever the limit is, a value is accepted for an option only if the option admits it. -/
theorem admits_of_assert {option : RenderOption} {v : Value}
    (h : ((va.levelAt depth).assert v option.descriptor path).outcome = .ok ()) :
    option.Admits v := by
  have hdepth := Validator.le_of_assert h
  by_cases hstrategy : option = strategy
  · subst hstrategy
    exact (judges_strategy hdepth v path).of_ok h
  by_cases hformats : option = formats
  · subst hformats
    -- the array is asserted one level further down, where it may be cut off
    have hrequest := h
    rw [descriptor, assert_formats_eq hdepth] at hrequest
    match hitems : ((va.levelAt (depth + 1)).assert v (.arrayOf (.guard RenderOptions.formatGuard))
        path).outcome with
    | .error failure =>
      rw [hitems] at hrequest
      cases hrequest
    | .ok () =>
      obtain ⟨items, rfl⟩ : ∃ items, v = .array items := by
        have harray := hitems
        rw [Validator.outcome_assert_of_le (Validator.le_of_assert hitems)] at harray
        cases v with
        | array items => exact ⟨items, rfl⟩
        | _ => cases harray
      obtain ⟨fs, rfl⟩ := names_of_assert_items hitems
      exact ⟨fs, rules_of_assert h, rfl⟩
  · have hconforms := Validator.conforms_of_assert (fun _ _ => true)
      (guardFree_descriptor hstrategy hformats) h
    exact (conforms_iff_admits hstrategy hformats).mp hconforms

end RenderOption

end Conform
