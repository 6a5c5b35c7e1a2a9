import Conform.Text.Hexadecimal
import Conform.Text.Quoted

/-!
# Reading quoted text back

What stands between quotes can be read back character by character, so a quoted text ends at one
place and tells the text that was quoted.

## Main definitions

- `Quoted.unescape?` — the character that is written first, and what comes after it

## Main results

- `Quoted.unescape?_escape` — characters are read back as they were
- `Quoted.quote_append_inj` — a quoted text is told apart from what follows it
-/

namespace Conform.Quoted

/-- The character that an escape of one letter stands for. -/
def ofLetter : Char → Char
  | 'b' => '\x08'
  | 'f' => '\x0c'
  | 'n' => '\n'
  | 'r' => '\r'
  | 't' => '\t'
  | c => c

/-- The character that is written first, and what comes after it. A quote ends the text. -/
def unescape? : List Char → Option (Char × List Char)
  | '\\' :: 'u' :: _ :: _ :: a :: b :: cs => some (.ofNat (Hexadecimal.ofDigits [a, b]), cs)
  | '\\' :: c :: cs => some (ofLetter c, cs)
  | c :: cs => if c = '"' then none else some (c, cs)
  | [] => none

theorem digit?_hexDigit (n : Nat) : Hexadecimal.digit? (hexDigit n) = some (n % 16) := by
  have hdigits : ∀ d : Fin 16, Hexadecimal.digit? (Nat.digitChar d) = some d.val := by decide
  exact hdigits ⟨n % 16, Nat.mod_lt n (by decide)⟩

theorem ofDigits_codeEscape {c : Char} (h : c.toNat < 32) :
    Hexadecimal.ofDigits [hexDigit (c.toNat / 16), hexDigit c.toNat] = c.toNat := by
  simp only [Hexadecimal.ofDigits, List.foldl_cons, List.foldl_nil, digit?_hexDigit,
    Option.getD_some]
  omega

theorem unescape?_codeEscape {c : Char} (h : c.toNat < 32) (rest : List Char) :
    unescape? (codeEscape c ++ rest) = some (c, rest) := by
  show some (Char.ofNat (Hexadecimal.ofDigits [hexDigit (c.toNat / 16), hexDigit c.toNat]), rest) =
    some (c, rest)
  rw [ofDigits_codeEscape h, Char.ofNat_toNat]

theorem unescape?_plain {c : Char} (hquote : c ≠ '"') (hbackslash : c ≠ '\\') (rest : List Char) :
    unescape? (c :: rest) = some (c, rest) := by
  simp [unescape?, hquote, hbackslash]

/-- A character is read back as it was, whatever comes after it. -/
theorem unescape?_escape (c : Char) (rest : List Char) :
    unescape? (escape c ++ rest) = some (c, rest) := by
  fun_cases escape c with
  | case8 _ _ _ _ _ _ _ hcode => exact unescape?_codeEscape hcode rest
  | case9 hquote hbackslash => exact unescape?_plain hquote hbackslash rest
  | _ =>
    subst c
    rfl

theorem unescape?_flatMap_escape (c : Char) (s rest : List Char) :
    unescape? ((c :: s).flatMap escape ++ rest) = some (c, s.flatMap escape ++ rest) := by
  rw [List.flatMap_cons, List.append_assoc, unescape?_escape]

/-- Two texts between quotes that are written alike are the same, and so is what comes after the
    quote at their end. -/
theorem escapes_append_inj {s t rest rest' : List Char}
    (h : s.flatMap escape ++ '"' :: rest = t.flatMap escape ++ '"' :: rest') :
    s = t ∧ rest = rest' := by
  have hread := congrArg unescape? h
  induction s generalizing t with
  | nil =>
    cases t with
    | nil => exact ⟨rfl, (List.cons.inj h).2⟩
    | cons d t =>
      rw [unescape?_flatMap_escape] at hread
      cases hread
  | cons c s ih =>
    cases t with
    | nil =>
      rw [unescape?_flatMap_escape] at hread
      cases hread
    | cons d t =>
      rw [unescape?_flatMap_escape, unescape?_flatMap_escape, Option.some.injEq,
        Prod.mk.injEq] at hread
      obtain ⟨rfl, hmore⟩ := hread
      obtain ⟨rfl, hrest⟩ := ih hmore (congrArg unescape? hmore)
      exact ⟨rfl, hrest⟩

theorem toList_quote_append (s : String) (rest : List Char) :
    (quote s).toList ++ rest = '"' :: (s.toList.flatMap escape ++ '"' :: rest) := by
  rw [quote, String.toList_ofList, List.cons_append, List.append_assoc, List.singleton_append]

/-- A quoted text is told apart from what follows it, and tells the text that was quoted. -/
theorem quote_append_inj {s t : String} {rest rest' : List Char}
    (h : (quote s).toList ++ rest = (quote t).toList ++ rest') : s = t ∧ rest = rest' := by
  rw [toList_quote_append, toList_quote_append] at h
  obtain ⟨hs, hrest⟩ := escapes_append_inj (List.cons.inj h).2
  exact ⟨String.toList_inj.mp hs, hrest⟩

end Conform.Quoted
