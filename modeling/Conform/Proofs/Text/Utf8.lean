import Conform.Text.Utf8

/-!
# UTF-8, both ways

Decoding accepts the bytes of a text and no others: overlong forms, surrogates, stray and missing
continuation bytes are all refused.

## Main definitions

- `Utf8.Form` — the bytes of one character, by their number

## Main results

- `Utf8.encodeChar_eq_iff` — the form of a character is the one it is encoded in
- `Utf8.decode_eq_ok_iff` — decoding inverts encoding
-/

namespace Conform.Utf8

-- ════════════════════════════════════════════════════════════════════════
-- One character
-- ════════════════════════════════════════════════════════════════════════

/-- The bytes of one character: a lead byte that announces their number, continuation bytes, and a
    code point that no shorter form has. -/
def Form : List UInt8 → Char → Prop
  | [a], c => a.toNat < 128 ∧ c.toNat = a.toNat
  | [a, b], c =>
    a.toNat / 32 = 6 ∧ isContinuation b ∧ character? 128 (a.toNat % 32 * 64 + payload b) = some c
  | [a, b, d], c =>
    a.toNat / 16 = 14 ∧ isContinuation b ∧ isContinuation d ∧
      character? 2048 ((a.toNat % 16 * 64 + payload b) * 64 + payload d) = some c
  | [a, b, d, e], c =>
    a.toNat / 8 = 30 ∧ isContinuation b ∧ isContinuation d ∧ isContinuation e ∧
      character? 65536 (((a.toNat % 8 * 64 + payload b) * 64 + payload d) * 64 + payload e) = some c
  | _, _ => False

theorem character?_eq_some_iff {least n : Nat} {c : Char} :
    character? least n = some c ↔ c.toNat = n ∧ least ≤ n := by
  by_cases h : least ≤ n ∧ n.isValidChar
  · rw [character?, dif_pos h]
    have hn : (Char.ofNatAux n h.2).toNat = n := rfl
    constructor
    · rintro ⟨⟩
      exact ⟨hn, h.1⟩
    · rintro ⟨hc, -⟩
      exact congrArg some (Char.toNat_inj.1 (hn.trans hc.symm))
  · rw [character?, dif_neg h]
    constructor
    · rintro ⟨⟩
    · rintro ⟨rfl, hleast⟩
      exact absurd ⟨hleast, c.valid⟩ h

theorem isContinuation_iff {b : UInt8} :
    isContinuation b = true ↔ 128 ≤ b.toNat ∧ b.toNat < 192 := by
  unfold isContinuation
  rw [beq_iff_eq]
  omega

theorem byte_eq_iff {n : Nat} (h : n < 256) {b : UInt8} : UInt8.ofNat n = b ↔ n = b.toNat := by
  rw [← UInt8.toNat_inj, UInt8.toNat_ofNat_of_lt' h]

theorem encodeChar_eq_iff {c : Char} {form : List UInt8} :
    String.utf8EncodeChar c = form ↔ Form form c := by
  have hvalid : c.val.toNat < 1114112 := by
    have := c.valid
    omega
  have hc : c.toNat = c.val.toNat := rfl
  -- one case for each number of bytes on the right, and in it one for each number on the left
  rcases form with _ | ⟨a, _ | ⟨b, _ | ⟨d, _ | ⟨e, _ | ⟨f, form⟩⟩⟩⟩⟩
  all_goals
    simp only [Form, String.utf8EncodeChar, character?_eq_some_iff, isContinuation_iff, payload, hc]
    repeat' split
    all_goals
      simp (disch := omega) only [List.cons.injEq, byte_eq_iff, reduceCtorEq, and_true, and_false,
        false_iff]
      try omega

/-- A byte of a character is the code point itself, or one that no ASCII character has. -/
theorem mem_encodeChar {c : Char} {b : UInt8} (h : b ∈ String.utf8EncodeChar c) :
    b.toNat = c.toNat ∨ 128 ≤ b.toNat := by
  have hform : Form (String.utf8EncodeChar c) c := encodeChar_eq_iff.mp rfl
  revert h hform
  rcases String.utf8EncodeChar c with _ | ⟨a, _ | ⟨a', _ | ⟨d, _ | ⟨e, _ | ⟨f, form⟩⟩⟩⟩⟩
  all_goals
    simp only [Form, isContinuation_iff, List.mem_cons, List.not_mem_nil, or_false]
  · exact False.elim
  · rintro rfl ⟨-, hc⟩
    exact .inl hc.symm
  · rintro (rfl | rfl) ⟨hlead, hnext, -⟩ <;> omega
  · rintro (rfl | rfl | rfl) ⟨hlead, hnext, hnext', -⟩ <;> omega
  · rintro (rfl | rfl | rfl | rfl) ⟨hlead, hnext, hnext', hnext'', -⟩ <;> omega
  · exact fun _ => False.elim

-- ════════════════════════════════════════════════════════════════════════
-- Texts
-- ════════════════════════════════════════════════════════════════════════

theorem encode_append (s t : String) : encode (s ++ t) = encode s ++ encode t := by
  rw [encode, String.toList_append, List.flatMap_append, encode, encode]

theorem encode_ofList (cs : List Char) :
    encode (String.ofList cs) = cs.flatMap String.utf8EncodeChar := by
  rw [encode, String.toList_ofList]

theorem prepend_eq_ok_iff {c : Char} {size : Nat} {decoded : Except Nat (List Char)}
    {cs : List Char} :
    prepend c size decoded = .ok cs ↔ ∃ cs', decoded = .ok cs' ∧ c :: cs' = cs := by
  cases decoded <;> simp [prepend]

/-- Decoding takes the form of a character off the front. -/
theorem decode_form_append {form rest : List UInt8} {c : Char} (h : Form form c) :
    decode (form ++ rest) = prepend c form.length (decode rest) := by
  rcases form with _ | ⟨a, _ | ⟨b, _ | ⟨d, _ | ⟨e, _ | ⟨f, form⟩⟩⟩⟩⟩
  · exact h.elim
  · obtain ⟨ha, hc⟩ := h
    have hchar : Char.ofNat a.toNat = c := by rw [← hc, Char.ofNat_toNat]
    rw [List.singleton_append, decode.eq_def]
    simp [ha, hchar]
  · obtain ⟨ha, hb, hc⟩ := h
    have hlead : ¬ a.toNat < 128 := by omega
    rw [List.cons_append, decode.eq_def]
    simp [hlead, ha, hb, hc]
  · obtain ⟨ha, hb, hd, hc⟩ := h
    have hlead : ¬ a.toNat < 128 ∧ ¬ a.toNat / 32 = 6 := by omega
    rw [List.cons_append, decode.eq_def]
    simp [hlead, ha, hb, hd, hc]
  · obtain ⟨ha, hb, hd, he, hc⟩ := h
    have hlead : ¬ a.toNat < 128 ∧ ¬ a.toNat / 32 = 6 ∧ ¬ a.toNat / 16 = 14 := by omega
    rw [List.cons_append, decode.eq_def]
    simp [hlead, ha, hb, hd, he, hc]
  · exact h.elim

/-- A form in front of the bytes of a text makes the bytes of a longer one. -/
theorem encode_prepend {form rest : List UInt8} {c : Char} {size : Nat} {cs : List Char}
    (hform : Form form c)
    (hrest : ∀ {cs}, decode rest = .ok cs → cs.flatMap String.utf8EncodeChar = rest)
    (h : prepend c size (decode rest) = .ok cs) :
    cs.flatMap String.utf8EncodeChar = form ++ rest := by
  obtain ⟨cs, hcs, rfl⟩ := prepend_eq_ok_iff.1 h
  rw [List.flatMap_cons, encodeChar_eq_iff.2 hform, hrest hcs]

/-- Decoding inverts encoding. -/
theorem decode_eq_ok_iff {bytes : List UInt8} {cs : List Char} :
    decode bytes = .ok cs ↔ cs.flatMap String.utf8EncodeChar = bytes := by
  constructor
  · intro h
    fun_induction decode bytes generalizing cs with
    | case1 =>
      cases h
      rfl
    | case2 a rest ha ih =>
      have hvalid : a.toNat.isValidChar := .inl (by omega)
      have hchar : (Char.ofNat a.toNat).toNat = a.toNat := by
        rw [Char.ofNat, dif_pos hvalid]
        rfl
      exact encode_prepend (show Form [a] _ from ⟨ha, hchar⟩) ih h
    | case5 a _ b rest hb ha c hc ih =>
      exact encode_prepend (show Form [a, b] c from ⟨ha, by simpa using hb, hc⟩) ih h
    | case9 a _ b hb _ d rest hd ha c hc ih =>
      exact encode_prepend (show Form [a, b, d] c from
        ⟨ha, by simpa using hb, by simpa using hd, hc⟩) ih h
    | case13 a _ b hb _ d hd _ e rest he ha c hc ih =>
      exact encode_prepend (show Form [a, b, d, e] c from
        ⟨ha, by simpa using hb, by simpa using hd, by simpa using he, hc⟩) ih h
    | _ => cases h
  · rintro rfl
    induction cs with
    | nil => rfl
    | cons c cs ih =>
      rw [List.flatMap_cons, decode_form_append (encodeChar_eq_iff.1 rfl), ih]
      rfl

/-- Decoding gives a text exactly for the bytes of that text. -/
theorem decode_eq_ok_toList_iff {bytes : List UInt8} {s : String} :
    decode bytes = .ok s.toList ↔ bytes = encode s :=
  decode_eq_ok_iff.trans eq_comm

end Conform.Utf8
