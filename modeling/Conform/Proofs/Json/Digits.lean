import Conform.Proofs.Json.Grammar

/-!
# Reading digits

The readers of digits take digits up to where they end, some of them in two goes. Where a run of
digits ends does not depend on the reader, so that each reader is described along the run in front
of it.

## Main definitions

- `Json.Cursor.Run` — a run of digits

## Main results

- `Json.Cursor.exists_run`, `Json.Cursor.Run.unique` — in front of a cursor there is one run
- `Json.Reader.gives_skipDigits` — all digits
- `Json.Reader.gives_wordDigits` — the digits that fit a word
- `Json.Reader.gives_exponentDigits_of_le` — digits that are counted
-/

namespace Conform.Json

open Reader (digitValue?)

-- ════════════════════════════════════════════════════════════════════════
-- Digits
-- ════════════════════════════════════════════════════════════════════════

theorem toNat_digitByte (d : Fin 10) : (digitByte d).toNat = 48 + d := by
  rw [digitByte, UInt8.toNat_ofNat_of_lt' (show 48 + d.val < 256 by omega)]

theorem digitByte_injective {d e : Fin 10} (h : digitByte d = digitByte e) : d = e := by
  have := congrArg UInt8.toNat h
  rw [toNat_digitByte, toNat_digitByte] at this
  exact Fin.ext (by omega)

theorem digitByte_ne {b : UInt8} (h : b.toNat < 48 ∨ 57 < b.toNat) (d : Fin 10) :
    digitByte d ≠ b := by
  rintro rfl
  rw [toNat_digitByte] at h
  omega

theorem digitValue?_digitByte (d : Fin 10) : digitValue? (digitByte d) = some d.val := by
  have hd := d.isLt
  rw [digitValue?, toNat_digitByte, if_pos (by omega)]
  simp

theorem exists_digit_of_digitValue? {b : UInt8} {n : Nat} (h : digitValue? b = some n) :
    ∃ d, digitByte d = b := by
  unfold digitValue? at h
  split at h
  · next hb =>
    refine ⟨⟨b.toNat - 48, by omega⟩, UInt8.toNat_inj.1 ?_⟩
    rw [toNat_digitByte]
    dsimp only
    omega
  · cases h

theorem digitValue?_eq_none {b : UInt8} (h : ∀ d, digitByte d ≠ b) : digitValue? b = none := by
  cases hb : digitValue? b with
  | none => rfl
  | some n =>
    obtain ⟨d, hd⟩ := exists_digit_of_digitValue? hb
    exact absurd hd (h d)

-- ════════════════════════════════════════════════════════════════════════
-- Runs
-- ════════════════════════════════════════════════════════════════════════

namespace Cursor

def NoDigit (c : Cursor) : Prop := ∀ d, c.rest.head? ≠ some (digitByte d)

/-- The digits from `c` to `c'`, after which there are no more. -/
structure Run (c : Cursor) (ds : Digits) (c' : Cursor) : Prop where
  past : c.Past ds.text c'
  stop : c'.NoDigit

@[simp] theorem run_nil_iff {c c' : Cursor} : c.Run [] c' ↔ c' = c ∧ c.NoDigit := by
  constructor
  · rintro ⟨hpast, hstop⟩
    obtain rfl := past_nil_iff.1 hpast
    exact ⟨rfl, hstop⟩
  · rintro ⟨rfl, hstop⟩
    exact ⟨past_nil_iff.2 rfl, hstop⟩

theorem run_cons_iff {c c' : Cursor} {d : Fin 10} {ds : Digits} :
    c.Run (d :: ds) c' ↔ ∃ c₁, c.Past [digitByte d] c₁ ∧ c₁.Run ds c' := by
  constructor
  · rintro ⟨hpast, hstop⟩
    obtain ⟨c₁, hd, hds⟩ := past_cons_split_iff.1 hpast
    exact ⟨c₁, hd, hds, hstop⟩
  · rintro ⟨c₁, hd, hds, hstop⟩
    exact ⟨past_cons_split_iff.2 ⟨c₁, hd, hds⟩, hstop⟩

/-- From every cursor there is a run of digits, if only an empty one. -/
theorem exists_run (c : Cursor) : ∃ ds c', c.Run ds c' := by
  obtain ⟨rest, p⟩ := c
  induction rest generalizing p with
  | nil => exact ⟨[], _, run_nil_iff.2 ⟨rfl, nofun⟩⟩
  | cons b rest ih =>
    by_cases h : ∃ d, digitByte d = b
    · obtain ⟨d, rfl⟩ := h
      obtain ⟨ds, c', hrun⟩ := ih (p.past (digitByte d))
      exact ⟨d :: ds, c', run_cons_iff.2 ⟨_, past_cons_iff.2 ⟨rfl, past_nil_iff.2 rfl⟩, hrun⟩⟩
    · refine ⟨[], _, run_nil_iff.2 ⟨rfl, fun d hd => h ⟨d, ?_⟩⟩⟩
      simpa using hd.symm

theorem Run.unique {c c₁ c₂ : Cursor} {ds es : Digits} (h₁ : c.Run ds c₁) (h₂ : c.Run es c₂) :
    ds = es ∧ c₁ = c₂ := by
  induction ds generalizing c es with
  | nil =>
    obtain ⟨rfl, hstop⟩ := run_nil_iff.1 h₁
    cases es with
    | nil => exact ⟨rfl, (run_nil_iff.1 h₂).1.symm⟩
    | cons e es =>
      obtain ⟨c, he, -⟩ := run_cons_iff.1 h₂
      exact absurd (past_cons_iff.1 he).1 (hstop e)
  | cons d ds ih =>
    obtain ⟨c₃, hd, hds⟩ := run_cons_iff.1 h₁
    cases es with
    | nil => exact absurd (past_cons_iff.1 hd).1 ((run_nil_iff.1 h₂).2 d)
    | cons e es =>
      obtain ⟨c₄, he, hes⟩ := run_cons_iff.1 h₂
      have hbytes := (past_cons_iff.1 hd).1.symm.trans (past_cons_iff.1 he).1
      obtain rfl := digitByte_injective (Option.some.inj hbytes)
      obtain rfl := hd.unique he
      obtain ⟨rfl, rfl⟩ := ih hds hes
      exact ⟨rfl, rfl⟩

end Cursor

-- ════════════════════════════════════════════════════════════════════════
-- What digits make
-- ════════════════════════════════════════════════════════════════════════

theorem gather_append (n : Nat) (ds : Digits) :
    (gather n ds).taken ++ (gather n ds).dropped = ds := by
  induction ds generalizing n with
  | nil => rfl
  | cons d ds ih =>
    unfold gather
    split
    · rfl
    · exact congrArg (d :: ·) (ih _)

theorem gather_zero_cons (d : Fin 10) (ds : Digits) :
    gather 0 (d :: ds) =
      ⟨(gather d ds).significand, d :: (gather d ds).taken, (gather d ds).dropped⟩ := by
  have hd : ¬ 0 * 10 + d.val > largestWord := by
    have : 9 < largestWord := by decide
    omega
  rw [gather, if_neg hd, Nat.zero_mul, Nat.zero_add]

theorem le_extend (n : Nat) (ds : Digits) : n ≤ extend n ds := by
  induction ds generalizing n with
  | nil => exact Nat.le_refl n
  | cons d ds ih => exact Nat.le_trans (by omega) (ih (n * 10 + d))

-- ════════════════════════════════════════════════════════════════════════
-- Readers
-- ════════════════════════════════════════════════════════════════════════

namespace Reader

variable {α : Type} {c c' c₁ : Cursor}

theorem gives_peekDigit_bind_of_past {f : Option Nat → Reader α} {a : α} {d : Fin 10}
    {text : List UInt8} (h : c.Past (digitByte d :: text) c₁) :
    (peekDigit >>= f).Gives c a c' ↔ (f (some d.val)).Gives c a c' := by
  change (f (c.rest.head?.bind digitValue?)).Gives c a c' ↔ _
  rw [(Cursor.past_cons_iff.1 h).1, Option.bind_some, digitValue?_digitByte]

theorem gives_peekDigit_bind_of_noDigit {f : Option Nat → Reader α} {a : α} (h : c.NoDigit) :
    (peekDigit >>= f).Gives c a c' ↔ (f none).Gives c a c' := by
  have hnone : c.rest.head?.bind digitValue? = none := by
    cases hb : c.rest.head? with
    | none => rfl
    | some b => exact digitValue?_eq_none fun d hd => h d (hd ▸ hb)
  change (f (c.rest.head?.bind digitValue?)).Gives c a c' ↔ _
  rw [hnone]

theorem gives_skipDigits {fuel : Nat} {ds : Digits} (hrun : c.Run ds c')
    (hfuel : c.rest.length < fuel) : (skipDigits fuel).Gives c ds.length c' := by
  induction ds generalizing c fuel with
  | nil =>
    obtain ⟨rfl, hstop⟩ := Cursor.run_nil_iff.1 hrun
    obtain ⟨fuel, rfl⟩ := Nat.exists_eq_succ_of_ne_zero (Nat.ne_zero_of_lt hfuel)
    exact (gives_peekDigit_bind_of_noDigit hstop).2 (gives_pure.2 ⟨rfl, rfl⟩)
  | cons d ds ih =>
    obtain ⟨c₁, hd, hds⟩ := Cursor.run_cons_iff.1 hrun
    obtain ⟨fuel, rfl⟩ := Nat.exists_eq_succ_of_ne_zero (Nat.ne_zero_of_lt hfuel)
    have hfuel' := hd.length_lt (List.cons_ne_nil _ _) hfuel
    refine (gives_peekDigit_bind_of_past hd).2 (gives_advance_bind.2 (gives_bind.2 ?_))
    rw [hd.next_eq]
    exact ⟨_, c', ih hds hfuel', gives_pure.2 ⟨rfl, rfl⟩⟩

/-- The digits that fit a word are taken, and the rest of the run is left. -/
theorem gives_wordDigits {fuel n k : Nat} {ds : Digits} (hrun : c.Run ds c')
    (hfuel : c.rest.length < fuel) :
    ∃ c₁, c₁.Run (gather n ds).dropped c' ∧
      (wordDigits fuel n k).Gives c
        ((gather n ds).significand, k + (gather n ds).taken.length, !(gather n ds).dropped.isEmpty)
        c₁ := by
  induction ds generalizing c fuel n k with
  | nil =>
    obtain ⟨rfl, hstop⟩ := Cursor.run_nil_iff.1 hrun
    obtain ⟨fuel, rfl⟩ := Nat.exists_eq_succ_of_ne_zero (Nat.ne_zero_of_lt hfuel)
    exact ⟨c', hrun, (gives_peekDigit_bind_of_noDigit hstop).2 (gives_pure.2 ⟨rfl, rfl⟩)⟩
  | cons d ds ih =>
    obtain ⟨c₁, hd, hds⟩ := Cursor.run_cons_iff.1 hrun
    obtain ⟨fuel, rfl⟩ := Nat.exists_eq_succ_of_ne_zero (Nat.ne_zero_of_lt hfuel)
    have hfuel' := hd.length_lt (List.cons_ne_nil _ _) hfuel
    unfold gather wordDigits
    simp only [gives_peekDigit_bind_of_past hd, gives_ite, gives_advance_bind, hd.next_eq]
    split
    · exact ⟨c, hrun, gives_pure.2 ⟨rfl, rfl⟩⟩
    · obtain ⟨c₂, hdropped, hgives⟩ := ih (n := n * 10 + d) (k := k + 1) hds hfuel'
      refine ⟨c₂, hdropped, ?_⟩
      simpa [Nat.add_assoc, Nat.add_comm 1] using hgives

theorem gives_exponentDigits_of_le {fuel n : Nat} {ds : Digits} (hrun : c.Run ds c')
    (hfuel : c.rest.length < fuel) (hle : extend n ds ≤ largestExponent) :
    (exponentDigits fuel n).Gives c (some (extend n ds)) c' := by
  induction ds generalizing c fuel n with
  | nil =>
    obtain ⟨rfl, hstop⟩ := Cursor.run_nil_iff.1 hrun
    obtain ⟨fuel, rfl⟩ := Nat.exists_eq_succ_of_ne_zero (Nat.ne_zero_of_lt hfuel)
    exact (gives_peekDigit_bind_of_noDigit hstop).2 (gives_pure.2 ⟨rfl, rfl⟩)
  | cons d ds ih =>
    obtain ⟨c₁, hd, hds⟩ := Cursor.run_cons_iff.1 hrun
    obtain ⟨fuel, rfl⟩ := Nat.exists_eq_succ_of_ne_zero (Nat.ne_zero_of_lt hfuel)
    have hfuel' := hd.length_lt (List.cons_ne_nil _ _) hfuel
    have hcount : ¬ n * 10 + d > largestExponent := Nat.not_lt.2 (Nat.le_trans (le_extend _ ds) hle)
    unfold exponentDigits
    simp only [gives_peekDigit_bind_of_past hd, gives_advance_bind, hd.next_eq, if_neg hcount]
    exact ih hds hfuel' hle

/-- Of too many digits some are left, the last of which is where the run ends. -/
theorem gives_exponentDigits_of_lt {fuel n : Nat} {ds : Digits} (hrun : c.Run ds c')
    (hfuel : c.rest.length < fuel) (hn : n ≤ largestExponent)
    (hlt : largestExponent < extend n ds) :
    ∃ c₁ es, (exponentDigits fuel n).Gives c none c₁ ∧ c₁.Run es c' := by
  induction ds generalizing c fuel n with
  | nil => exact absurd hlt (Nat.not_lt.2 hn)
  | cons d ds ih =>
    obtain ⟨c₁, hd, hds⟩ := Cursor.run_cons_iff.1 hrun
    obtain ⟨fuel, rfl⟩ := Nat.exists_eq_succ_of_ne_zero (Nat.ne_zero_of_lt hfuel)
    have hfuel' := hd.length_lt (List.cons_ne_nil _ _) hfuel
    unfold exponentDigits
    simp only [gives_peekDigit_bind_of_past hd, gives_advance_bind, hd.next_eq, gives_ite,
      gives_pure]
    by_cases hcount : n * 10 + d > largestExponent
    · exact ⟨c₁, ds, by simp [hcount], hds⟩
    · simpa only [if_neg hcount] using ih hds hfuel' (Nat.not_lt.1 hcount) hlt

end Reader

end Conform.Json
