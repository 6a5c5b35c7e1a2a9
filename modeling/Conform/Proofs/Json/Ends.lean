import Conform.Proofs.Json.Digits

/-!
# Where texts end

A number goes on as far as it can, and whether it can shows in its text and in the byte that comes
next. All other documents have an end of their own, and inside a list or an object a document is
followed by a byte that ends it in any case.

## Main definitions

- `Json.Cursor.AtDelimiter` — a byte that ends every document comes next

## Main results

- `Json.NumberText.stops_text_iff` — whether a number goes on depends on its text alone
- `Json.stops_of_head` — what does not start as a number may be followed by anything
- `Json.Cursor.AtDelimiter.stops`, `Json.Tail.atDelimiter` — inside a list or an object
-/

namespace Conform.Json

-- ════════════════════════════════════════════════════════════════════════
-- Where a number ends
-- ════════════════════════════════════════════════════════════════════════

theorem Digits.not_mem_text {b : UInt8} (h : b.toNat < 48 ∨ 57 < b.toNat) (ds : Digits) :
    b ∉ ds.text := by
  intro hb
  obtain ⟨d, -, hd⟩ := List.mem_map.1 hb
  exact digitByte_ne h d hd

theorem Exponent.mem_text_iff {e : Exponent} {b : UInt8}
    (h : b.toNat < 43 ∨ 57 < b.toNat ∨ b = 46) : b ∈ e.text ↔ b = e.letter := by
  have hsign : b ∉ Exponent.signText e.sign := by
    rcases e.sign with _ | _ | _ <;> intro hb <;> simp [Exponent.signText] at hb <;> subst hb <;>
      revert h <;> decide
  have hdigits : b ∉ e.digits.text := by
    refine Digits.not_mem_text ?_ _
    rcases h with h | h | rfl
    · exact .inl (by omega)
    · exact .inr h
    · exact .inl (by decide)
  simp [Exponent.text, hsign, hdigits]

namespace NumberText

theorem mem_text_iff {t : NumberText} {b : UInt8} (hsign : b ≠ 45)
    (hdigit : b.toNat < 48 ∨ 57 < b.toNat) :
    b ∈ t.text ↔ b ∈ placesText t.places ∨ b ∈ exponentText t.exponent := by
  have hwhole := Digits.not_mem_text hdigit t.whole
  unfold text
  split <;> simp [unsigned, hsign, hwhole]

theorem places_eq_nil_iff {t : NumberText} : t.places = [] ↔ 46 ∉ t.text := by
  have hexponent : 46 ∉ exponentText t.exponent := by
    cases t.exponent with
    | none => exact List.not_mem_nil
    | some e =>
      intro h
      have := (Exponent.mem_text_iff (by decide)).1 h
      rcases e.letter_eq with hletter | hletter <;> rw [hletter] at this <;> cases this
  rw [mem_text_iff (by decide) (by decide)]
  cases t.places <;> simp [placesText, hexponent]

theorem exponent_eq_none_iff {t : NumberText} : t.exponent = none ↔ 101 ∉ t.text ∧ 69 ∉ t.text := by
  have hplaces : ∀ b, b ≠ 46 → (b.toNat < 48 ∨ 57 < b.toNat) → b ∉ placesText t.places := by
    intro b hb hdigit
    cases hps : t.places with
    | nil => exact List.not_mem_nil
    | cons d ps => simpa [placesText, hb] using Digits.not_mem_text hdigit (d :: ps)
  rw [mem_text_iff (by decide) (by decide), mem_text_iff (by decide) (by decide)]
  cases he : t.exponent with
  | none => simp [exponentText, hplaces]
  | some e =>
    have hletter := e.letter_eq
    simp only [exponentText, Exponent.mem_text_iff (b := 101) (by decide),
      Exponent.mem_text_iff (b := 69) (by decide)]
    rcases hletter with hletter | hletter <;> simp [hletter]

/-- Whether a number goes on depends on its text alone. -/
theorem stops_text_iff {t : NumberText} {rest : List UInt8} :
    Stops t.text rest ↔ EndsNumber t.places t.exponent rest := by
  constructor
  · intro h
    exact h t rfl
  · intro h t' ht
    have hplaces : t'.places = [] ↔ t.places = [] := by
      rw [places_eq_nil_iff, places_eq_nil_iff, ht]
    have hexponent : t'.exponent = none ↔ t.exponent = none := by
      rw [exponent_eq_none_iff, exponent_eq_none_iff, ht]
    rwa [EndsNumber, hplaces, hexponent]

end NumberText

-- ════════════════════════════════════════════════════════════════════════
-- How texts start and end
-- ════════════════════════════════════════════════════════════════════════

theorem NumberText.exists_head (t : NumberText) :
    ∃ b text, t.text = b :: text ∧ (b = 45 ∨ ∃ d, b = digitByte d) := by
  unfold text
  split
  · exact ⟨45, t.unsigned, rfl, .inl rfl⟩
  · obtain ⟨d, ds, hwhole⟩ := List.exists_cons_of_ne_nil t.whole_ne
    exact ⟨digitByte d, _, by rw [unsigned, hwhole]; rfl, .inr ⟨d, rfl⟩⟩

/-- A text that does not start as a number does may be followed by anything. -/
theorem stops_of_head {b : UInt8} {text rest : List UInt8} (hminus : b ≠ 45)
    (hdigit : ∀ d, digitByte d ≠ b) : Stops (b :: text) rest := by
  intro t ht
  obtain ⟨a, text', htext, ha⟩ := t.exists_head
  obtain ⟨rfl, -⟩ := List.cons.inj (ht.symm.trans htext)
  rcases ha with ha | ⟨d, ha⟩
  · exact absurd ha hminus
  · exact absurd ha.symm (hdigit d)

/-- What may follow a document inside a list or an object comes next, or nothing. -/
def Cursor.AtDelimiter (c : Cursor) : Prop :=
  ∀ b ∈ c.rest.head?, Reader.isBlank b = true ∨ b = 44 ∨ b = 93 ∨ b = 125

/-- No number goes on where a delimiter comes next. -/
theorem Cursor.AtDelimiter.stops {c : Cursor} (h : c.AtDelimiter) (text : List UInt8) :
    Stops text c.rest := by
  have hne : ∀ b, c.rest.head? = some b → b.toNat < 46 ∨ b = 93 ∨ b = 125 := by
    intro b hb
    rcases h b hb with hblank | rfl | rfl | rfl
    · simp only [Reader.isBlank, Bool.or_eq_true, beq_iff_eq] at hblank
      rcases hblank with ((rfl | rfl) | rfl) | rfl <;> decide
    all_goals decide
  intro t _
  refine ⟨fun d hd => ?_, fun _ => ⟨fun h => ?_, fun h => ?_, fun _ h => ?_⟩⟩
  · rcases hne _ hd with h | h | h
    · rw [toNat_digitByte] at h
      omega
    · exact digitByte_ne (by decide) d h
    · exact digitByte_ne (by decide) d h
  all_goals exact absurd (hne _ h) (by decide)

theorem IsBlanks.append {ws ws' : List UInt8} (hws : IsBlanks ws) (hws' : IsBlanks ws') :
    IsBlanks (ws ++ ws') :=
  List.forall_mem_append.2 ⟨hws, hws'⟩

theorem Cursor.atDelimiter_of_past_blanks {c c' : Cursor} {ws : List UInt8} (hws : IsBlanks ws)
    (hpast : c.Past ws c') (h : c'.AtDelimiter) : c.AtDelimiter := by
  cases ws with
  | nil => exact Cursor.past_nil_iff.1 hpast ▸ h
  | cons a ws =>
    intro b hb
    obtain rfl := Option.some.inj ((Cursor.past_cons_iff.1 hpast).1.symm.trans hb)
    exact .inl (hws a List.mem_cons_self)

/-- What follows an item starts with a delimiter. -/
theorem Tail.atDelimiter {α : Type} {Part : List UInt8 → α → Prop} {c c' : Cursor}
    {text : List UInt8} {as : List α} (htail : Tail Part text as) (hpast : c.Past text c')
    (hclose : c'.AtDelimiter) : c.AtDelimiter := by
  cases htail with
  | done hws => exact Cursor.atDelimiter_of_past_blanks hws hpast hclose
  | more hws =>
    obtain ⟨c₁, hpast, hcomma⟩ := Cursor.past_append_iff.1 hpast
    refine Cursor.atDelimiter_of_past_blanks hws hpast fun b hb => .inr (.inl ?_)
    exact Option.some.inj (hb.symm.trans (Cursor.past_cons_iff.1 hcomma).1)

end Conform.Json
