import Conform.Proofs.Json.Digits

/-!
# Reading numbers

The reader of numbers accepts exactly the texts of the grammar that are in range and go on no
further, and answers their numbers. It reads from left to right: the digits in front of the point
first, then the places, then the exponent, and so do the lemmas, each of them about all that follows
a part.

## Main results

- `Json.Reader.gives_exponent_or` — an exponent, or what a number without one goes on with
- `Json.Reader.gives_fraction` — places, or what a number without them goes on with
- `Json.Reader.gives_number` — a number after its sign
-/

namespace Conform.Json

open Reader (digitValue?)

def Cursor.AtExponent (c : Cursor) : Prop := c.rest.head? = some 101 ∨ c.rest.head? = some 69

namespace Reader

variable {c c' c₁ : Cursor}

-- ════════════════════════════════════════════════════════════════════════
-- Exponents
-- ════════════════════════════════════════════════════════════════════════

theorem gives_exponentSign {down : Bool} :
    exponentSign.Gives c down c' ↔
      ∃ sign, c.Past (Exponent.signText sign) c' ∧ down = (sign == some true) ∧
        (sign = none → c.rest.head? ≠ some 43 ∧ c.rest.head? ≠ some 45) := by
  have cases_sign {P : Option Bool → Prop} :
      (∃ sign, P sign) ↔ P none ∨ P (some false) ∨ P (some true) := by
    rw [Option.exists, Bool.exists_bool]
  unfold exponentSign
  rw [gives_peek_bind, cases_sign]
  simp only [gives_ite, gives_advance_bind, gives_pure, beq_iff_eq, Exponent.signText,
    Cursor.past_nil_iff, Cursor.past_cons_iff]
  by_cases hplus : c.rest.head? = some 43
  · simp [hplus, and_comm]
  · by_cases hminus : c.rest.head? = some 45
    · simp [hminus, and_comm]
    · simp [hplus, hminus, and_comm]

theorem gives_scaled {negative : Bool} {significand : Nat} {e : Int} {n : Num} :
    (scaled negative significand e).Gives c n c' ↔
      scaled? negative significand e = some n ∧ c' = c := by
  unfold scaled scaled?
  cases scale? ((Magnitude.ofNat? significand).getD .greatest) e <;> simp [eq_comm]

variable {negative : Bool} {significand : Nat} {counted : Int} {n : Num}

/-- An exponent in front of the reader is read for what it says. -/
theorem gives_exponent_of_past {e : Exponent} (hpast : c.Past e.text c₁) (hstop : c₁.NoDigit) :
    (exponent negative significand counted).Gives c n c' ↔
      scaledBy? negative significand counted (some e) = some n ∧ c' = c₁ := by
  obtain ⟨d, ds, hdigits⟩ := List.exists_cons_of_ne_nil e.digits_ne
  rw [Exponent.text, hdigits] at hpast
  obtain ⟨c₂, hletter, hpast⟩ := Cursor.past_cons_split_iff.1 hpast
  obtain ⟨c₃, hsign, hpast⟩ := Cursor.past_append_iff.1 hpast
  obtain ⟨c₄, hd, hds⟩ := Cursor.past_cons_split_iff.1 hpast
  have hsign' : exponentSign.Gives c₂ (e.sign == some true) c₃ := by
    refine gives_exponentSign.2 ⟨e.sign, hsign, rfl, fun hnone => ?_⟩
    rw [hnone] at hsign
    obtain rfl := Cursor.past_nil_iff.1 hsign
    rw [(Cursor.past_cons_iff.1 hd).1]
    have hne {b : UInt8} (h : b.toNat < 48) : some (digitByte d) ≠ some b :=
      mt Option.some.inj (digitByte_ne (.inl h) d)
    exact ⟨hne (by decide), hne (by decide)⟩
  have hrun : c₄.Run ds c₁ := ⟨hds, hstop⟩
  have hcount : extend 0 e.digits = extend d.val ds := by
    rw [hdigits]
    simp [extend]
  unfold exponent
  rw [gives_advance_bind, hletter.next_eq, hsign'.bind_iff, (gives_next_of_past hd).bind_iff]
  simp only [digitValue?_digitByte, gives_remaining_bind]
  simp only [scaledBy?, Exponent.count?, hcount]
  by_cases hle : extend d.val ds ≤ largestExponent
  · rw [(gives_exponentDigits_of_le hrun (Nat.lt_succ_self _) hle).bind_iff, if_pos hle]
    simp only [gives_scaled]
    simp
  · obtain ⟨c₅, es, hgives, hrest⟩ := gives_exponentDigits_of_lt hrun (Nat.lt_succ_self _)
      (Nat.le_trans (Nat.le_of_lt d.isLt) (by decide)) (Nat.not_le.1 hle)
    rw [hgives.bind_iff, if_neg hle]
    have hskip := gives_skipDigits hrest (Nat.lt_succ_self _)
    simp only [gives_ite, gives_remaining_bind, hskip.bind_iff, not_gives_fail, gives_pure,
      beq_eq_false_iff_ne]
    split <;> simp [eq_comm]

theorem exists_exponent_of_gives (hletter : c.AtExponent)
    (h : (exponent negative significand counted).Gives c n c') :
    ∃ (e : Exponent) (c₁ : Cursor), c.Past e.text c₁ ∧ c₁.NoDigit := by
  unfold exponent at h
  obtain ⟨down, c₁, hsign, h⟩ := gives_bind.1 (gives_advance_bind.1 h)
  obtain ⟨sign, hsigned, -, -⟩ := gives_exponentSign.1 hsign
  obtain ⟨b, c₂, hb, h⟩ := (gives_next_bind (by simp)).1 h
  dsimp only at h
  cases hdigit : digitValue? b with
  | none => simp [hdigit] at h
  | some m =>
    obtain ⟨d, rfl⟩ := exists_digit_of_digitValue? hdigit
    obtain ⟨ds, c₃, hds⟩ := c₂.exists_run
    obtain ⟨letter, hhead, hletter⟩ :
        ∃ letter, c.rest.head? = some letter ∧ (letter = 101 ∨ letter = 69) := by
      rcases hletter with h | h
      · exact ⟨101, h, .inl rfl⟩
      · exact ⟨69, h, .inr rfl⟩
    refine ⟨⟨letter, sign, d :: ds, hletter, List.cons_ne_nil d ds⟩, c₃, ?_, hds.stop⟩
    exact Cursor.past_cons_iff.2 ⟨hhead, hsigned.append (hb.append hds.past)⟩

-- ════════════════════════════════════════════════════════════════════════
-- Places
-- ════════════════════════════════════════════════════════════════════════

theorem gives_ite_atExponent {x y : Reader Num} :
    (do if ← atExponent then x else y : Reader Num).Gives c n c' ↔
      (c.AtExponent ∧ x.Gives c n c') ∨ (¬ c.AtExponent ∧ y.Gives c n c') := by
  let b := c.rest.head? == some 101 || c.rest.head? == some 69
  have hat : b = true ↔ c.AtExponent := by simp [b, Cursor.AtExponent]
  change (if b = true then x else y).Gives c n c' ↔ _
  rw [gives_ite]
  split
  · next h => simp [hat.1 h]
  · next h => simp [mt hat.2 h]

/-- An exponent is read if there is one, and otherwise what a number without one goes on with. -/
theorem gives_exponent_or {rest : Reader Num} {value? : Option Exponent → Option Num}
    (hvalue : ∀ e, value? (some e) = scaledBy? negative significand counted (some e))
    (hrest : rest.Gives c n c' ↔ value? none = some n ∧ c' = c) :
    (do if ← atExponent then exponent negative significand counted else rest : Reader Num).Gives
        c n c' ↔
      ∃ e, c.Past (exponentText e) c' ∧ (e.isSome → c'.NoDigit) ∧ (e = none → ¬ c'.AtExponent) ∧
        value? e = some n := by
  rw [gives_ite_atExponent]
  constructor
  · rintro (⟨hat, h⟩ | ⟨hat, h⟩)
    · obtain ⟨e, c₁, hpast, hstop⟩ := exists_exponent_of_gives hat h
      obtain ⟨hn, rfl⟩ := (gives_exponent_of_past hpast hstop).1 h
      exact ⟨some e, hpast, fun _ => hstop, nofun, (hvalue e).trans hn⟩
    · obtain ⟨hn, rfl⟩ := hrest.1 h
      exact ⟨none, Cursor.past_nil_iff.2 rfl, nofun, fun _ => hat, hn⟩
  · rintro ⟨e, hpast, hstop, hat, hn⟩
    cases e with
    | none =>
      obtain rfl := Cursor.past_nil_iff.1 hpast
      exact .inr ⟨hat rfl, hrest.2 ⟨hn, rfl⟩⟩
    | some e =>
      have hhead := (Cursor.past_cons_iff.1 hpast).1
      refine .inl ⟨?_, (gives_exponent_of_past hpast (hstop rfl)).2 ⟨(hvalue e).symm.trans hn, rfl⟩⟩
      rcases e.letter_eq with hletter | hletter
      · exact .inl (hletter ▸ hhead)
      · exact .inr (hletter ▸ hhead)

theorem gives_tail :
    (tail negative significand counted).Gives c n c' ↔
      ∃ e, c.Past (exponentText e) c' ∧ (e.isSome → c'.NoDigit) ∧ (e = none → ¬ c'.AtExponent) ∧
        scaledBy? negative significand counted e = some n :=
  gives_exponent_or (fun _ => rfl) gives_scaled

/-- No digit comes before what may follow the digits of a number. -/
theorem noDigit_of_past_exponentText {e : Option Exponent} (hpast : c.Past (exponentText e) c')
    (hstop : c'.NoDigit) : c.NoDigit := by
  cases e with
  | none => exact Cursor.past_nil_iff.1 hpast ▸ hstop
  | some e =>
    intro d hd
    have hletter := Option.some.inj (hd.symm.trans (Cursor.past_cons_iff.1 hpast).1)
    refine digitByte_ne ?_ d hletter
    rcases e.letter_eq with h | h <;> simp [h]

theorem endsNumber_iff {ps : Digits} {e : Option Exponent} :
    EndsNumber ps e c.rest ↔
      c.NoDigit ∧ (e = none → ¬ c.AtExponent ∧ (ps = [] → c.rest.head? ≠ some 46)) := by
  simp only [EndsNumber, Cursor.NoDigit, Cursor.AtExponent, not_or, and_assoc, ne_eq]

theorem placesText_of_ne_nil {ps : Digits} (h : ps ≠ []) : placesText ps = 46 :: ps.text := by
  cases ps with
  | nil => exact absurd rfl h
  | cons => rfl

/-- Along the digits after the point, of which there is at least one. -/
theorem gives_places_of_run {ps : Digits} (hrun : c.next.Run ps c₁) :
    (places negative significand counted).Gives c n c' ↔ ps ≠ [] ∧
      (tail negative (gather significand ps).significand
        (counted - (gather significand ps).taken.length)).Gives c₁ n c' := by
  obtain ⟨c₂, hdropped, hgives⟩ :=
    gives_wordDigits (n := significand) (k := 0) hrun (Nat.lt_succ_self _)
  have hdigits := gather_append significand ps
  unfold places
  rw [gives_advance_bind, gives_remaining_bind, hgives.bind_iff]
  dsimp only
  rw [Nat.zero_add]
  cases hfull : (gather significand ps).dropped with
  | nil =>
    rw [hfull, List.append_nil] at hdigits
    rw [hfull] at hdropped
    obtain ⟨rfl, -⟩ := Cursor.run_nil_iff.1 hdropped
    rw [hdigits]
    by_cases hps : ps = []
    · simp only [hps, List.isEmpty_nil, List.length_nil, gives_ite, gives_peek_bind]
      cases c₁.rest.head? <;> simp
    · simp [hps]
  | cons d dropped =>
    have hps : ps ≠ [] := by
      rintro rfl
      cases hfull
    rw [hfull] at hdropped
    have hskip := gives_skipDigits hdropped (Nat.lt_succ_self _)
    simp [hps, hskip.bind_iff]

/-- Places and what follows them, from the point on. -/
theorem gives_places (hpoint : c.rest.head? = some 46) :
    (places negative significand counted).Gives c n c' ↔
      ∃ ps e, ps ≠ [] ∧ c.Past (placesText ps ++ exponentText e) c' ∧ EndsNumber ps e c'.rest ∧
        scaledBy? negative (gather significand ps).significand
          (counted - (gather significand ps).taken.length) e = some n := by
  obtain ⟨ds, c₁, hrun⟩ := c.next.exists_run
  rw [gives_places_of_run hrun, gives_tail]
  constructor
  · rintro ⟨hds, e, hpast, hstop, hat, hvalue⟩
    have hends (he : e = none) : ¬ c'.AtExponent ∧ (ds = [] → c'.rest.head? ≠ some 46) :=
      ⟨hat he, fun h => absurd h hds⟩
    refine ⟨ds, e, hds, ?_, endsNumber_iff.2 ⟨?_, hends⟩, hvalue⟩
    · rw [placesText_of_ne_nil hds]
      exact Cursor.past_cons_iff.2 ⟨hpoint, hrun.past.append hpast⟩
    · cases e with
      | none => exact Cursor.past_nil_iff.1 hpast ▸ hrun.stop
      | some e => exact hstop rfl
  · rintro ⟨ps, e, hps, hpast, hends, hvalue⟩
    obtain ⟨hstop, hends⟩ := endsNumber_iff.1 hends
    rw [placesText_of_ne_nil hps] at hpast
    obtain ⟨-, hpast⟩ := Cursor.past_cons_iff.1 hpast
    obtain ⟨c₃, hps', hexponent⟩ := Cursor.past_append_iff.1 hpast
    obtain ⟨rfl, rfl⟩ := hrun.unique ⟨hps', noDigit_of_past_exponentText hexponent hstop⟩
    exact ⟨hps, e, hexponent, fun _ => hstop, fun he => (hends he).1, hvalue⟩

-- ════════════════════════════════════════════════════════════════════════
-- Numbers
-- ════════════════════════════════════════════════════════════════════════

/-- What follows the digits in front of the point: places from the point on, or what a number
    without places goes on with. -/
theorem gives_fraction {rest : Reader Num} {value? : Digits → Option Exponent → Option Num}
    (hstop : c.NoDigit)
    (hvalue : ∀ ps e, ps ≠ [] → value? ps e = scaledBy? negative (gather significand ps).significand
      (counted - (gather significand ps).taken.length) e)
    (hrest : rest.Gives c n c' ↔ ∃ e, c.Past (exponentText e) c' ∧ (e.isSome → c'.NoDigit) ∧
      (e = none → ¬ c'.AtExponent) ∧ value? [] e = some n) :
    (do if (← peek) == some 46 then places negative significand counted
        else rest : Reader Num).Gives c n c' ↔
      ∃ ps e, c.Past (placesText ps ++ exponentText e) c' ∧ EndsNumber ps e c'.rest ∧
        value? ps e = some n := by
  rw [gives_peek_bind, gives_ite]
  split
  · next hpoint =>
    rw [beq_iff_eq] at hpoint
    rw [gives_places hpoint]
    constructor
    · rintro ⟨ps, e, hps, hpast, hends, hn⟩
      exact ⟨ps, e, hpast, hends, (hvalue ps e hps).trans hn⟩
    · rintro ⟨ps, e, hpast, hends, hn⟩
      have hps : ps ≠ [] := by
        rintro rfl
        cases e with
        | none =>
          obtain rfl := Cursor.past_nil_iff.1 hpast
          exact ((endsNumber_iff.1 hends).2 rfl).2 rfl hpoint
        | some e =>
          have hletter := Option.some.inj (hpoint.symm.trans (Cursor.past_cons_iff.1 hpast).1)
          rcases e.letter_eq with h | h <;> simp [h] at hletter
      exact ⟨ps, e, hps, hpast, hends, (hvalue ps e hps).symm.trans hn⟩
  · next hpoint =>
    rw [beq_iff_eq] at hpoint
    rw [hrest]
    constructor
    · rintro ⟨e, hpast, hstop', hat, hn⟩
      refine ⟨[], e, hpast, endsNumber_iff.2 ⟨?_, fun he => ⟨hat he, fun _ => ?_⟩⟩, hn⟩
      · cases e with
        | none => exact Cursor.past_nil_iff.1 hpast ▸ hstop
        | some e => exact hstop' rfl
      · subst he
        exact Cursor.past_nil_iff.1 hpast ▸ hpoint
    · rintro ⟨ps, e, hpast, hends, hn⟩
      obtain ⟨hstop', hends⟩ := endsNumber_iff.1 hends
      cases ps with
      | nil => exact ⟨e, hpast, fun _ => hstop', fun he => (hends he).1, hn⟩
      | cons d ps => exact absurd (Cursor.past_cons_iff.1 hpast).1 hpoint

/-- What follows the digits in front of the point, if these fit a word. -/
theorem gives_afterInteger {whole taken : Digits} (hstop : c.NoDigit)
    (hwhole : gather 0 whole = ⟨significand, taken, []⟩) :
    (afterInteger negative significand).Gives c n c' ↔
      ∃ ps e, c.Past (placesText ps ++ exponentText e) c' ∧ EndsNumber ps e c'.rest ∧
        numberOf? negative whole ps e = some n := by
  refine gives_fraction hstop (fun ps e hps => ?_) (gives_exponent_or (fun e => ?_) ?_)
  · simp [numberOf?, hwhole, hps]
  · simp [numberOf?, hwhole, gather]
  · simp [numberOf?, hwhole, eq_comm]

/-- What follows the digits in front of the point, if these do not all fit a word. -/
theorem gives_afterDropped {whole taken dropped : Digits} (hstop : c.NoDigit)
    (hdropped : dropped ≠ []) (hwhole : gather 0 whole = ⟨significand, taken, dropped⟩) :
    (do if (← peek) == some 46 then places negative significand dropped.length
        else tail negative significand dropped.length : Reader Num).Gives c n c' ↔
      ∃ ps e, c.Past (placesText ps ++ exponentText e) c' ∧ EndsNumber ps e c'.rest ∧
        numberOf? negative whole ps e = some n := by
  refine gives_fraction hstop (fun ps e _ => ?_) (gives_tail.trans ?_)
  · simp [numberOf?, hwhole, hdropped]
  · simp [numberOf?, hwhole, hdropped, gather]

/-- Along the digits in front of the point. -/
theorem gives_number_of_run {d : Fin 10} {ds : Digits} (hrun : c.Run (d :: ds) c₁) :
    (number negative).Gives c n c' ↔ (d = 0 → ds = []) ∧
      ∃ ps e, c₁.Past (placesText ps ++ exponentText e) c' ∧ EndsNumber ps e c'.rest ∧
        numberOf? negative (d :: ds) ps e = some n := by
  obtain ⟨c₂, hd, hds⟩ := Cursor.run_cons_iff.1 hrun
  unfold number
  rw [(gives_next_of_past hd).bind_iff]
  dsimp only
  rw [digitValue?_digitByte]
  split
  · next h => cases h
  · next h =>
    obtain rfl : d = 0 := Fin.ext (Option.some.inj h)
    cases ds with
    | nil =>
      obtain ⟨rfl, hstop⟩ := Cursor.run_nil_iff.1 hds
      rw [gives_peekDigit_bind_of_noDigit hstop]
      simpa using gives_afterInteger hstop rfl
    | cons e es =>
      obtain ⟨c₃, he, -⟩ := Cursor.run_cons_iff.1 hds
      rw [gives_peekDigit_bind_of_past he]
      simp
  · next m hm h =>
    obtain rfl := Option.some.inj h
    have hzero : d ≠ 0 := by
      rintro rfl
      exact hm rfl
    obtain ⟨c₃, hdropped, hgives⟩ := gives_wordDigits (n := d) (k := 0) hds (Nat.lt_succ_self _)
    have hgather := gather_zero_cons d ds
    rw [gives_remaining_bind, hgives.bind_iff]
    dsimp only
    cases hfull : (gather d ds).dropped with
    | nil =>
      rw [hfull] at hdropped hgather
      obtain ⟨rfl, hstop⟩ := Cursor.run_nil_iff.1 hdropped
      simpa [hzero] using gives_afterInteger hstop hgather
    | cons e es =>
      rw [hfull] at hdropped hgather
      have hskip := gives_skipDigits hdropped (Nat.lt_succ_self _)
      simp only [List.isEmpty_cons, Bool.not_false, if_true, gives_remaining_bind, hskip.bind_iff,
        hzero, false_imp_iff, true_and]
      exact gives_afterDropped hdropped.stop (List.cons_ne_nil e es) hgather

/-- The digits in front of the point are all that come first. -/
theorem exists_run_of_past_unsigned {t : NumberText} (hpast : c.Past t.unsigned c')
    (hends : EndsNumber t.places t.exponent c'.rest) :
    ∃ c₁, c.Run t.whole c₁ ∧ c₁.Past (placesText t.places ++ exponentText t.exponent) c' := by
  obtain ⟨c₁, hwhole, hpast⟩ := Cursor.past_append_iff.1 hpast
  refine ⟨c₁, ⟨hwhole, ?_⟩, hpast⟩
  cases hps : t.places with
  | nil =>
    rw [hps] at hpast
    exact noDigit_of_past_exponentText hpast (endsNumber_iff.1 hends).1
  | cons d ps =>
    rw [hps] at hpast
    intro e he
    have hpoint := Option.some.inj (he.symm.trans (Cursor.past_cons_iff.1 hpast).1)
    exact digitByte_ne (by decide) e hpoint

/-- A number after its sign is read for what it says, if it goes on no further. -/
theorem gives_number :
    (number negative).Gives c n c' ↔
      ∃ t : NumberText, t.negative = negative ∧ c.Past t.unsigned c' ∧ t.value? = some n ∧
        EndsNumber t.places t.exponent c'.rest := by
  constructor
  · intro h
    obtain ⟨ds, c₁, hrun⟩ := c.exists_run
    cases ds with
    | nil =>
      obtain ⟨b, c₂, hb, h⟩ := (gives_next_bind (by simp)).1 h
      have hdigit : digitValue? b = none := digitValue?_eq_none fun d hd =>
        (Cursor.run_nil_iff.1 hrun).2 d (hd ▸ (Cursor.past_cons_iff.1 hb).1)
      simp [hdigit] at h
    | cons d ds =>
      obtain ⟨hzero, ps, e, hpast, hends, hn⟩ := (gives_number_of_run hrun).1 h
      refine ⟨⟨negative, d :: ds, ps, e, List.cons_ne_nil d ds, fun hhead => ?_⟩, rfl,
        hrun.past.append hpast, hn, hends⟩
      obtain rfl := Option.some.inj hhead
      rw [hzero rfl]
  · rintro ⟨t, rfl, hpast, hn, hends⟩
    obtain ⟨c₁, hrun, hpast⟩ := exists_run_of_past_unsigned hpast hends
    obtain ⟨d, ds, hwhole⟩ := List.exists_cons_of_ne_nil t.whole_ne
    rw [hwhole] at hrun
    refine (gives_number_of_run hrun).2
      ⟨fun hd => ?_, t.places, t.exponent, hpast, hends, hwhole ▸ hn⟩
    have hzero := t.whole_zero (by rw [hwhole, hd]; rfl)
    rw [hwhole] at hzero
    exact (List.cons.inj hzero).2

end Reader

end Conform.Json
