import Conform.Proofs.Evaluation.SideBySide
import Conform.Proofs.Value.Equality

/-!
# Evaluations of equal values

Without guards an evaluation sees no more of a value than equality compares: its kind, whether it
is one exact symbol, its items, and what is found under a key. So equal values get the same answer
and the same report, down to the texts.

## Main definitions

- `Likeness.ofEqual` — two runs on equal values

## Main results

- `Validator.equal_values_indistinguishable` — equal values are evaluated alike
-/

namespace Conform

/-- Two runs under the same settings and at the same places on equal values. -/
def Likeness.ofEqual (va : Validator) : Likeness va va where
  symbol := Eq
  key := Eq
  value := Value.Equal
  descriptor d e := d = e ∧ d.GuardFree
  path := Eq
  failure := Eq
  kind h := h.kind_eq
  asSymbol? := by
    rintro v w s _ h rfl
    rw [h.asSymbol?_eq]
  asArray? h := h.rel_asArray?
  get? := by
    rintro v w key _ h rfl
    exact h.rel_get? key
  form := @Descriptor.sameForm_of_eq
  index := PropertyKey.index_eq_self
  child := by
    rintro p _ key _ rfl rfl
    rfl
  wrongType := by
    rintro p _ d _ v w rfl ⟨rfl, -⟩ h
    simp only [Failure.wrongType, h.received_eq]
  absent := by
    rintro p _ d _ rfl ⟨rfl, -⟩
    rfl
  depthExceeded := by
    rintro p _ rfl
    rfl
  isVerdict := by
    rintro f _ rfl
    rfl

namespace Validator

/-- Equal values, each of which stores each key once, are evaluated alike by descriptors without
    guards, under every limit: they get the same answer, and the same failure with its place, its
    texts and its fault. The text of the values themselves is the same. -/
theorem equal_values_indistinguishable (va : Validator) {v w : Value} (h : (v == w) = true)
    (hv : v.Keyed) (hw : w.Keyed) {d : Descriptor} (hfree : d.GuardFree) :
    (va.accepts v d).outcome = (va.accepts w d).outcome ∧
    (va.assert v d).outcome = (va.assert w d).outcome ∧
    v.received = w.received := by
  have hequal : v.Equal w := ⟨h, hv, hw⟩
  have hassert : (va.assert v d).outcome = (va.assert w d).outcome := by
    have hsame := (Likeness.ofEqual va).sameEnd_level (va.maxDepth + 1 - 0) hequal ⟨rfl, hfree⟩
      (rfl : Path.root = Path.root)
    exact hsame.eq
  refine ⟨?_, hassert, hequal.received_eq⟩
  rw [(va.agree_whole v d).outcome_eq, (va.agree_whole w d).outcome_eq, hassert]

/-- A handler and a size, in one order and with names. -/
def handled : Value :=
  .object ⟨[(.string "size", .number (.finite true .zero)),
    (.index 1, .function ⟨0, some "handle", .nothing⟩ ⟨[]⟩)]⟩

/-- The same in the other order, with an anonymous handler and the other zero. -/
def handledAgain : Value :=
  .object ⟨[(.index 1, .function ⟨0, none, .nothing⟩ ⟨[]⟩),
    (.string "size", .number (.finite false .zero))]⟩

/-- A handler under a numeral and a size that is a text. -/
def handling : Descriptor :=
  .shape ⟨[(.string "1", .primitive .function), (.string "size", .primitive .string)]⟩

/-- Both have their handler under the twin of its key, and zero for a text. -/
theorem equal_values_indistinguishable_handled :
    (handled == handledAgain) = true ∧ handled.Keyed ∧ handledAgain.Keyed ∧ handling.GuardFree ∧
    (assert ⟨1, fun _ => none⟩ handled handling).outcome =
      .error (.invalidType ⟨⟨[.string "size"]⟩, "string", some "number(0)"⟩) ∧
    (assert ⟨1, fun _ => none⟩ handledAgain handling).outcome =
      .error (.invalidType ⟨⟨[.string "size"]⟩, "string", some "number(0)"⟩) := by
  have hequal : (handled == handledAgain) = true := by decide
  have hhandler (name : Option String) :
      (Value.function ⟨0, name, .nothing⟩ (⟨[]⟩ : Entries Value)).Keyed :=
    .function List.nodup_nil fun _ h => nomatch h
  have hzero (negative : Bool) : (Value.number (.finite negative .zero)).Keyed := .scalar rfl
  have hkeys : [PropertyKey.string "size", .index 1].Nodup := by decide
  have hkeysAgain : [PropertyKey.index 1, .string "size"].Nodup := by decide
  have hfirst : handled.Keyed := .object hkeys (by simp [hhandler, hzero])
  have hsecond : handledAgain.Keyed := .object hkeysAgain (by simp [hhandler, hzero])
  have hfree : handling.GuardFree := by simp [handling, Descriptor.GuardFree]
  have hreport : (assert ⟨1, fun _ => none⟩ handled handling).outcome =
      .error (.invalidType ⟨⟨[.string "size"]⟩, "string", some "number(0)"⟩) := rfl
  have halike := equal_values_indistinguishable ⟨1, fun _ => none⟩ hequal hfirst hsecond hfree
  exact ⟨hequal, hfirst, hsecond, hfree, hreport, halike.2.1.symm.trans hreport⟩

end Validator

end Conform
