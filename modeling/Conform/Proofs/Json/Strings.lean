import Conform.Proofs.Json.Grammar
import Conform.Proofs.Text.Utf8

/-!
# Reading strings

The readers of strings accept exactly the texts of the grammar, and answer what those stand for.

## Main results

- `Json.Reader.gives_literal` — the rest of a literal
- `Json.Reader.gives_escape` — an escape
- `Json.Reader.gives_string` — a string after its opening quote
-/

namespace Conform.Json.Reader

variable {c c' : Cursor}

theorem gives_literal {bs : List UInt8} {u : Unit} : (literal bs).Gives c u c' ↔ c.Past bs c' := by
  induction bs generalizing c with
  | nil => simp [literal]
  | cons b bs ih =>
    unfold literal
    rw [gives_next_bind (by simp)]
    simp only [gives_ite, not_gives_fail, ih]
    constructor
    · rintro ⟨a, c₁, ha, h⟩
      split at h
      · next hab =>
        subst hab
        exact ha.append h
      · exact h.elim
    · intro h
      obtain ⟨hb, h⟩ := Cursor.past_cons_iff.1 h
      exact ⟨b, c.next, by simp [hb], by simpa using h⟩

-- ════════════════════════════════════════════════════════════════════════
-- Escapes
-- ════════════════════════════════════════════════════════════════════════

theorem gives_hexUnit {unit : Nat} :
    hexUnit.Gives c unit c' ↔ ∃ digits, HexUnit digits unit ∧ c.Past digits c' := by
  constructor
  · intro h
    simp only [Gives, hexUnit] at h
    split at h
    · next w x y z rest hrest =>
      split at h
      · next hw hx hy hz =>
        obtain ⟨hunit, rfl⟩ := Prod.mk.inj h
        have hdigits := (Except.ok.inj hunit).symm
        refine ⟨[w, x, y, z], ⟨_, _, _, _, by simp [hw, hx, hy, hz], hdigits⟩, ?_⟩
        simp [hrest, Cursor.rest_next]
      · cases h
    · cases h
  · rintro ⟨digits, ⟨w, x, y, z, hdigits, rfl⟩, hpast⟩
    obtain ⟨a, digits, rfl, ha, hdigits⟩ := List.map_eq_cons_iff.1 hdigits
    obtain ⟨b, digits, rfl, hb, hdigits⟩ := List.map_eq_cons_iff.1 hdigits
    obtain ⟨d, digits, rfl, hd, hdigits⟩ := List.map_eq_cons_iff.1 hdigits
    obtain ⟨e, digits, rfl, he, hdigits⟩ := List.map_eq_cons_iff.1 hdigits
    obtain rfl := List.map_eq_nil_iff.1 hdigits
    have hrest : c.rest = a :: b :: d :: e :: c'.rest := hpast.rest
    simp only [Cursor.past_cons_iff, Cursor.past_nil_iff] at hpast
    obtain ⟨-, -, -, -, hnext⟩ := hpast
    simp [Gives, hexUnit, hrest, ha, hb, hd, he, hnext]

theorem gives_surrogateLink {b : UInt8} {u : Unit} :
    (surrogateLink b).Gives c u c' ↔ c.Past [b] c' := by
  unfold surrogateLink
  rw [gives_peek_bind]
  cases h : c.rest.head? with
  | none => simp [h]
  | some a => simp [h]

theorem gives_codeEscape {char : Char} :
    codeEscape.Gives c char c' ↔ ∃ text, EscapeText (117 :: text) char ∧ c.Past text c' := by
  unfold codeEscape
  simp only [gives_bind, gives_ite, gives_hexUnit, gives_surrogateLink, gives_pure, not_gives_fail]
  constructor
  · rintro ⟨unit, c₁, ⟨digits, hunit, hpast⟩, h⟩
    split at h
    · exact h.elim
    · next htrailing =>
      split at h
      · next hleading =>
        obtain ⟨⟨⟩, c₂, hslash, ⟨⟩, c₃, hletter, trail, c₄, ⟨digits', htrail, hpast'⟩, h⟩ := h
        split at h
        · next htrailing' =>
          obtain ⟨hchar, rfl⟩ := h
          rw [hchar]
          exact ⟨_, .pair hunit hleading htrail htrailing',
            hpast.append (hslash.append (hletter.append hpast'))⟩
        · exact h.elim
      · next hleading =>
        obtain ⟨rfl, rfl⟩ := h
        exact ⟨_, .unit hunit (by simpa using hleading) (by simpa using htrailing), hpast⟩
  · rintro ⟨text, htext, hpast⟩
    cases htext with
    | letter hletter => cases hletter
    | unit hunit hleading htrailing =>
      refine ⟨_, c', ⟨text, hunit, hpast⟩, ?_⟩
      simp [hleading, htrailing]
    | @pair digits digits' lead trail hlead hleading htrail htrailing =>
      have hlead' : isTrailingSurrogate lead = false := by
        simp [isLeadingSurrogate, isTrailingSurrogate] at hleading ⊢
        omega
      obtain ⟨c₁, hpast, h⟩ := Cursor.past_append_iff.1 hpast
      obtain ⟨c₂, hlink, h⟩ := Cursor.past_cons_split_iff.1 h
      obtain ⟨c₃, hlink', hpast'⟩ := Cursor.past_cons_split_iff.1 h
      refine ⟨lead, c₁, ⟨digits, hlead, hpast⟩, ?_⟩
      rw [if_neg (by simp [hlead']), if_pos hleading]
      refine ⟨(), c₂, hlink, (), c₃, hlink', trail, c', ⟨digits', htrail, hpast'⟩, ?_⟩
      rw [if_pos htrailing]
      exact ⟨rfl, rfl⟩

theorem gives_escape {char : Char} :
    escape.Gives c char c' ↔ ∃ text, EscapeText text char ∧ c.Past text c' := by
  unfold escape
  rw [gives_next_bind (by simp)]
  constructor
  · rintro ⟨b, c₁, hb, h⟩
    dsimp only at h
    split at h
    · next char' hletter =>
      obtain ⟨rfl, rfl⟩ := gives_pure.1 h
      exact ⟨[b], .letter hletter, hb⟩
    · next hletter =>
      simp only [gives_ite, gives_codeEscape, not_gives_fail] at h
      split at h
      · next hb117 =>
        subst hb117
        obtain ⟨text, htext, hpast⟩ := h
        exact ⟨117 :: text, htext, hb.append hpast⟩
      · exact h.elim
  · rintro ⟨text, htext, hpast⟩
    have code {digits : List UInt8} (h : text = 117 :: digits) :
        ∃ c₁, c.Past [117] c₁ ∧ codeEscape.Gives c₁ char c' := by
      subst h
      obtain ⟨c₁, hletter, hdigits⟩ := Cursor.past_cons_split_iff.1 hpast
      exact ⟨c₁, hletter, gives_codeEscape.2 ⟨digits, htext, hdigits⟩⟩
    cases htext with
    | @letter b _ hletter => exact ⟨b, c', hpast, by simp [hletter]⟩
    | unit =>
      obtain ⟨c₁, hletter, hcode⟩ := code rfl
      exact ⟨117, c₁, hletter, hcode⟩
    | pair =>
      obtain ⟨c₁, hletter, hcode⟩ := code rfl
      exact ⟨117, c₁, hletter, hcode⟩

-- ════════════════════════════════════════════════════════════════════════
-- Strings
-- ════════════════════════════════════════════════════════════════════════

theorem gives_stringBytes {fuel : Nat} {acc out : List UInt8} (hfuel : c.rest.length < fuel) :
    (stringBytes fuel acc).Gives c out c' ↔
      ∃ text bytes, Contents text bytes ∧ c.Past (text ++ [34]) c' ∧
        out = bytes.reverse ++ acc := by
  induction fuel generalizing c acc with
  | zero => exact absurd hfuel (Nat.not_lt_zero _)
  | succ fuel ih =>
    unfold stringBytes
    rw [gives_next_bind (by simp)]
    constructor
    · rintro ⟨b, c₁, hb, h⟩
      have hfuel' := hb.length_lt (List.cons_ne_nil _ _) hfuel
      simp only [gives_ite, gives_pure, gives_bind, not_gives_fail, gives_escape] at h
      split at h
      · next hquote =>
        obtain ⟨rfl, rfl⟩ := h
        exact ⟨[], [], .nil, hquote ▸ hb, rfl⟩
      · next hquote =>
        split at h
        · next hbackslash =>
          obtain ⟨char, c₂, ⟨escaped, hescaped, hpast⟩, h⟩ := h
          have hfuel'' := Nat.lt_of_le_of_lt hpast.length_le hfuel'
          obtain ⟨text, bytes, hcontents, htext, rfl⟩ := (ih hfuel'').1 h
          refine ⟨_, _, .escape hescaped hcontents, ?_, by simp⟩
          rw [List.cons_append, List.append_assoc]
          exact (hbackslash ▸ hb).append (hpast.append htext)
        · next hbackslash =>
          split at h
          · exact h.elim
          · next hprintable =>
            obtain ⟨text, bytes, hcontents, htext, rfl⟩ := (ih hfuel').1 h
            exact ⟨_, _, .plain (Nat.not_lt.1 hprintable) hquote hbackslash hcontents,
              hb.append htext, by simp⟩
    · rintro ⟨text, bytes, hcontents, hpast, rfl⟩
      cases hcontents with
      | nil => exact ⟨34, c', hpast, by simp⟩
      | @plain b text bytes hprintable hquote hbackslash hmore =>
        obtain ⟨c₁, hb, htext⟩ := Cursor.past_cons_split_iff.1 hpast
        have hfuel' := hb.length_lt (List.cons_ne_nil _ _) hfuel
        refine ⟨b, c₁, hb, ?_⟩
        dsimp only
        rw [if_neg hquote, if_neg hbackslash, if_neg (Nat.not_lt.2 hprintable)]
        exact (ih hfuel').2 ⟨text, bytes, hmore, htext, by simp⟩
      | @escape escaped text bytes char hescaped hmore =>
        rw [List.cons_append, List.append_assoc] at hpast
        obtain ⟨c₁, hb, h⟩ := Cursor.past_cons_split_iff.1 hpast
        obtain ⟨c₂, hpast, htext⟩ := Cursor.past_append_iff.1 h
        have hfuel' := hb.length_lt (List.cons_ne_nil _ _) hfuel
        have hfuel'' := Nat.lt_of_le_of_lt hpast.length_le hfuel'
        refine ⟨92, c₁, hb, ?_⟩
        dsimp only
        rw [if_neg (by decide), if_pos rfl, gives_bind]
        exact ⟨char, c₂, gives_escape.2 ⟨escaped, hescaped, hpast⟩,
          (ih hfuel'').2 ⟨text, bytes, hmore, htext, by simp⟩⟩

theorem gives_string {s : String} :
    string.Gives c s c' ↔ ∃ text, Contents text (Utf8.encode s) ∧ c.Past (text ++ [34]) c' := by
  unfold string
  rw [gives_remaining_bind, gives_bind]
  constructor
  · rintro ⟨out, c₁, hbytes, h⟩
    obtain ⟨text, bytes, hcontents, hpast, rfl⟩ := (gives_stringBytes (Nat.lt_succ_self _)).1 hbytes
    rw [List.append_nil, List.reverse_reverse] at h
    dsimp only at h
    split at h
    · next cs hcs =>
      obtain ⟨rfl, rfl⟩ := gives_pure.1 h
      rw [← String.toList_ofList (l := cs), Utf8.decode_eq_ok_toList_iff] at hcs
      exact ⟨text, hcs ▸ hcontents, hpast⟩
    · simp [gives_bind] at h
  · rintro ⟨text, hcontents, hpast⟩
    have hdecode := Utf8.decode_eq_ok_toList_iff.2 (rfl : Utf8.encode s = Utf8.encode s)
    refine ⟨_, c', (gives_stringBytes (Nat.lt_succ_self _)).2 ⟨text, _, hcontents, hpast, rfl⟩, ?_⟩
    dsimp only
    rw [List.append_nil, List.reverse_reverse, hdecode]
    exact gives_pure.2 ⟨String.ofList_toList.symm, rfl⟩

end Conform.Json.Reader
