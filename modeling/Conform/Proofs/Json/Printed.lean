import Conform.Json.Printer
import Conform.Proofs.Json.Selection

/-!
# Reading printed documents

A document without numbers that is printed over several lines is a text of the grammar, and of that
document. So it is read back as it was, unless it nests too deeply or has a key twice.

## Main definitions

- `Json.NumberFree` — documents without numbers, by how deeply they nest

## Main results

- `Json.stringText_quote` — a quoted text is the text of a string
- `Json.NumberFree.spells_prettyAt` — a printed document is a text of the document
- `Json.read_pretty_append` — a printed document is read back
-/

namespace Conform.Json

open Reader (hexValue? isLeadingSurrogate isTrailingSurrogate letterEscape?)

-- ════════════════════════════════════════════════════════════════════════
-- Strings
-- ════════════════════════════════════════════════════════════════════════

variable {text bytes : List UInt8}

/-- Bytes that stand for themselves between quotes. -/
theorem Contents.plain_append {bs : List UInt8} (hbs : ∀ b ∈ bs, 32 ≤ b.toNat ∧ b ≠ 34 ∧ b ≠ 92)
    (hmore : Contents text bytes) : Contents (bs ++ text) (bs ++ bytes) := by
  induction bs with
  | nil => exact hmore
  | cons b bs ih =>
    obtain ⟨⟨hprintable, hquote, hbackslash⟩, hbs⟩ := List.forall_mem_cons.mp hbs
    exact .plain hprintable hquote hbackslash (ih hbs)

theorem hexValue?_hexDigit (n : Nat) :
    ∃ b, String.utf8EncodeChar (Quoted.hexDigit n) = [b] ∧ hexValue? b = some (n % 16) := by
  have hdigits : ∀ d : Fin 16,
      ∃ b, String.utf8EncodeChar (Nat.digitChar d) = [b] ∧ hexValue? b = some d.val := by
    intro d
    refine ⟨(String.utf8EncodeChar (Nat.digitChar d)).headD 0, ?_⟩
    revert d
    decide
  exact hdigits ⟨n % 16, Nat.mod_lt n (by decide)⟩

/-- The code of a control character is an escape of it. -/
theorem escapeText_codeEscape {c : Char} (h : c.toNat < 32) :
    ∃ escaped, (Quoted.codeEscape c).flatMap String.utf8EncodeChar = 92 :: escaped ∧
      EscapeText escaped c := by
  obtain ⟨w, hw, hw'⟩ := hexValue?_hexDigit (c.toNat / 4096)
  obtain ⟨x, hx, hx'⟩ := hexValue?_hexDigit (c.toNat / 256)
  obtain ⟨y, hy, hy'⟩ := hexValue?_hexDigit (c.toNat / 16)
  obtain ⟨z, hz, hz'⟩ := hexValue?_hexDigit c.toNat
  have hunit : HexUnit [w, x, y, z] c.toNat :=
    ⟨_, _, _, _, by rw [List.map_cons, hw', List.map_cons, hx', List.map_cons, hy', List.map_cons,
      hz', List.map_nil], by omega⟩
  have hescape : EscapeText [117, w, x, y, z] (Char.ofNat c.toNat) :=
    .unit hunit (by simp only [isLeadingSurrogate]; simp; omega)
      (by simp only [isTrailingSurrogate]; simp; omega)
  refine ⟨[117, w, x, y, z], ?_, Char.ofNat_toNat c ▸ hescape⟩
  simp only [Quoted.codeEscape, List.flatMap_cons, List.flatMap_nil, hw, hx, hy, hz]
  rfl

/-- A character is written between quotes as a text of it. -/
theorem Contents.escape_append (c : Char) (hmore : Contents text bytes) :
    Contents ((Quoted.escape c).flatMap String.utf8EncodeChar ++ text)
      (String.utf8EncodeChar c ++ bytes) := by
  have hletter {b : UInt8} {d : Char} (h : letterEscape? b = some d) :
      Contents (92 :: b :: text) (String.utf8EncodeChar d ++ bytes) :=
    .escape (.letter h) hmore
  fun_cases Quoted.escape c with
  | case8 _ _ _ _ _ _ _ hcode =>
    obtain ⟨escaped, htext, hescape⟩ := escapeText_codeEscape hcode
    rw [htext]
    exact .escape hescape hmore
  | case9 hquote hbackslash _ _ _ _ _ hcode =>
    rw [List.flatMap_singleton]
    have hne {d : Char} (h : c ≠ d) : c.toNat ≠ d.toNat := fun heq => h (Char.toNat_inj.mp heq)
    have hquote' : c.toNat ≠ 34 := hne hquote
    have hbackslash' : c.toNat ≠ 92 := hne hbackslash
    refine plain_append (fun b hb => ?_) hmore
    rcases Utf8.mem_encodeChar hb with hcode' | hcode'
    · refine ⟨by omega, ?_, ?_⟩
      · rintro rfl
        exact hquote' hcode'.symm
      · rintro rfl
        exact hbackslash' hcode'.symm
    · refine ⟨by omega, ?_, ?_⟩
      · rintro rfl
        exact absurd hcode' (by decide)
      · rintro rfl
        exact absurd hcode' (by decide)
  | _ =>
    subst c
    exact hletter rfl

/-- A quoted text is the text of a string. -/
theorem stringText_quote (s : String) : StringText (Utf8.encode (Quoted.quote s)) s := by
  have hcontents (cs : List Char) :
      Contents ((cs.flatMap Quoted.escape).flatMap String.utf8EncodeChar)
        (cs.flatMap String.utf8EncodeChar) := by
    induction cs with
    | nil => exact .nil
    | cons c cs ih =>
      rw [List.flatMap_cons, List.flatMap_append, List.flatMap_cons]
      exact ih.escape_append c
  refine ⟨_, ?_, hcontents s.toList⟩
  rw [Quoted.quote, Utf8.encode_ofList, List.flatMap_cons, List.flatMap_append]
  rfl

-- ════════════════════════════════════════════════════════════════════════
-- Lists and objects
-- ════════════════════════════════════════════════════════════════════════

theorem isBlanks_indentation (level : Nat) : IsBlanks (Utf8.encode (indentation level)) := by
  intro b hb
  rw [indentation, Utf8.encode_ofList, List.mem_flatMap] at hb
  obtain ⟨c, hc, hb⟩ := hb
  obtain rfl := List.eq_of_mem_replicate hc
  obtain rfl := List.mem_singleton.mp hb
  rfl

section

variable {α : Type} {Part : List UInt8 → α → Prop} {parts : List String} {as : List α}

/-- The parts of a list or an object, a line each, after the first of them. -/
theorem tail_lines {ws : List UInt8} (hws : IsBlanks ws) (level : Nat)
    (hparts : List.Forall₂ (fun part a => Part (Utf8.encode part) a) parts as) (line : String) :
    ∃ more, Utf8.encode (",\n".intercalate
        (line :: parts.map fun part => indentation level ++ part)) ++ ws =
      Utf8.encode line ++ more ∧ Tail Part more as := by
  induction hparts generalizing line with
  | nil => exact ⟨ws, by rw [List.map_nil, String.intercalate_singleton], .done hws⟩
  | @cons part a parts as hpart _ ih =>
    obtain ⟨more, hmore, htail⟩ := ih (indentation level ++ part)
    have hnone : IsBlanks [] := nofun
    have hbreak : IsBlanks (10 :: Utf8.encode (indentation level)) :=
      List.forall_mem_cons.mpr ⟨rfl, isBlanks_indentation level⟩
    refine ⟨_, ?_, .more hnone hbreak hpart htail⟩
    rw [List.map_cons, String.intercalate_cons_cons, Utf8.encode_append, List.append_assoc, hmore,
      Utf8.encode_append, Utf8.encode_append, List.append_assoc, List.append_assoc]
    rfl

/-- The parts of a list or an object between its brackets are a row of their texts. -/
theorem row_block (level : Nat) (opening closing : String)
    (hparts : List.Forall₂ (fun part a => Part (Utf8.encode part) a) parts as) :
    ∃ row, Utf8.encode (block level opening closing parts) =
      Utf8.encode opening ++ (row ++ Utf8.encode closing) ∧ Row Part row as := by
  cases hparts with
  | nil => exact ⟨[], by simp [block, Utf8.encode_append], .none nofun⟩
  | @cons part a parts as hpart hparts =>
    have hend : IsBlanks (10 :: Utf8.encode (indentation level)) :=
      List.forall_mem_cons.mpr ⟨rfl, isBlanks_indentation level⟩
    have hbreak : IsBlanks (10 :: Utf8.encode (indentation (level + 1))) :=
      List.forall_mem_cons.mpr ⟨rfl, isBlanks_indentation (level + 1)⟩
    obtain ⟨more, hmore, htail⟩ := tail_lines hend (level + 1) hparts
      (indentation (level + 1) ++ part)
    have hblock : block level opening closing (part :: parts) = opening ++ "\n" ++
        ",\n".intercalate ((indentation (level + 1) ++ part) ::
          parts.map fun part => indentation (level + 1) ++ part) ++
        "\n" ++ indentation level ++ closing := rfl
    refine ⟨_, ?_, .some hbreak hpart htail⟩
    have hbreak' : Utf8.encode "\n" = [10] := rfl
    have hlines := congrArg (fun lines => 10 :: (lines ++ Utf8.encode closing)) hmore
    simp only [Utf8.encode_append, List.append_assoc, List.cons_append] at hlines
    simp only [hblock, Utf8.encode_append, hbreak', List.append_assoc, List.cons_append,
      List.nil_append, hlines]

end

-- ════════════════════════════════════════════════════════════════════════
-- Documents
-- ════════════════════════════════════════════════════════════════════════

/-- Documents without numbers in which at most so many lists and objects stand inside each other. -/
inductive NumberFree : Nat → Json → Prop
  | null {levels : Nat} : NumberFree levels .null
  | bool {levels : Nat} (b : Bool) : NumberFree levels (.bool b)
  | str {levels : Nat} (s : String) : NumberFree levels (.str s)
  | arr {levels : Nat} {items : List Json} (hitems : ∀ j ∈ items, NumberFree levels j) :
      NumberFree (levels + 1) (.arr items)
  | obj {levels : Nat} {members : List (String × Json)}
      (hmembers : ∀ m ∈ members, NumberFree levels m.2) : NumberFree (levels + 1) (.obj members)

theorem spells_of_scalarText {levels : Nat} {j : Json} (h : ScalarText text j) :
    Spells levels text j :=
  spells_iff.mpr (.inl h)

theorem forall₂_prettyItems {Item : List UInt8 → Json → Prop} {level : Nat} {items : List Json}
    (h : ∀ j ∈ items, Item (Utf8.encode (j.prettyAt level)) j) :
    List.Forall₂ (fun part j => Item (Utf8.encode part) j) (prettyItems level items) items := by
  induction items with
  | nil => exact .nil
  | cons j js ih =>
    obtain ⟨hj, hjs⟩ := List.forall_mem_cons.mp h
    exact .cons hj (ih hjs)

theorem forall₂_prettyMembers {Item : List UInt8 → Json → Prop} {level : Nat}
    {members : List (String × Json)}
    (h : ∀ m ∈ members, Item (Utf8.encode (m.2.prettyAt level)) m.2) :
    List.Forall₂ (fun part m => MemberText Item (Utf8.encode part) m)
      (prettyMembers level members) members := by
  induction members with
  | nil => exact .nil
  | cons m members ih =>
    obtain ⟨key, item⟩ := m
    obtain ⟨hitem, hmembers⟩ := List.forall_mem_cons.mp h
    have hnone : IsBlanks [] := nofun
    have hblank : IsBlanks [32] := List.forall_mem_singleton.mpr rfl
    have hmember := MemberText.mk (stringText_quote key) hnone hblank hitem
    refine .cons ?_ (ih hmembers)
    rw [Utf8.encode_append, Utf8.encode_append, List.append_assoc]
    exact hmember

/-- A printed document is a text of the document. -/
theorem NumberFree.spells_prettyAt {levels : Nat} {j : Json} (h : NumberFree levels j)
    (level : Nat) : Spells levels (Utf8.encode (j.prettyAt level)) j := by
  induction h generalizing level with
  | null =>
    rw [prettyAt]
    exact spells_of_scalarText .null
  | bool b =>
    rw [prettyAt]
    cases b with
    | true => exact spells_of_scalarText .true
    | false => exact spells_of_scalarText .false
  | str s =>
    rw [prettyAt]
    exact spells_of_scalarText (.str (stringText_quote s))
  | arr _ ih =>
    obtain ⟨row, htext, hrow⟩ := row_block level "[" "]"
      (forall₂_prettyItems fun j hj => ih j hj (level + 1))
    rw [prettyAt, htext]
    exact .inr (.list hrow)
  | obj _ ih =>
    obtain ⟨row, htext, hrow⟩ := row_block level "\x7b" "\x7d"
      (forall₂_prettyMembers fun m hm => ih m hm (level + 1))
    rw [prettyAt, htext]
    exact .inr (.object hrow)

-- ════════════════════════════════════════════════════════════════════════
-- Reading back
-- ════════════════════════════════════════════════════════════════════════

theorem insertMember_of_not_mem {key : String} {item : Json} {members : List (String × Json)}
    (h : key ∉ members.map Prod.fst) :
    insertMember key item members = members ++ [(key, item)] := by
  induction members with
  | nil => rfl
  | cons m members ih =>
    rw [List.map_cons, List.mem_cons, not_or] at h
    rw [insertMember, if_neg (Ne.symm h.1), ih h.2, List.cons_append]

theorem mergeMembers_of_nodup {members : List (String × Json)}
    (h : (members.map Prod.fst).Nodup) : mergeMembers members = members := by
  suffices hfold : ∀ acc : List (String × Json), ((acc ++ members).map Prod.fst).Nodup →
      members.foldl (fun acc m => insertMember m.1 m.2 acc) acc = acc ++ members from hfold [] h
  clear h
  induction members with
  | nil => exact fun acc _ => (List.append_nil acc).symm
  | cons m members ih =>
    intro acc hacc
    have hfresh : m.1 ∉ acc.map Prod.fst := by
      rw [List.map_append, List.map_cons] at hacc
      exact fun hm => (List.nodup_append.mp hacc).2.2 _ hm _ List.mem_cons_self rfl
    rw [List.foldl_cons, insertMember_of_not_mem hfresh, ih _ (by simpa using hacc),
      List.append_assoc, List.singleton_append]

theorem mergedItems_eq {items : List Json} (h : ∀ j ∈ items, j.merged = j) :
    mergedItems items = items := by
  induction items with
  | nil => rfl
  | cons j js ih =>
    obtain ⟨hj, hjs⟩ := List.forall_mem_cons.mp h
    rw [mergedItems, hj, ih hjs]

theorem mergedMembers_eq {members : List (String × Json)} (h : ∀ m ∈ members, m.2.merged = m.2) :
    mergedMembers members = members := by
  induction members with
  | nil => rfl
  | cons m members ih =>
    obtain ⟨hm, hmembers⟩ := List.forall_mem_cons.mp h
    rw [mergedMembers, hm, ih hmembers]

/-- Nothing is merged in a document without repeated keys. -/
theorem Distinct.merged_eq {j : Json} (h : j.Distinct) : j.merged = j := by
  induction h with
  | arr _ ih => rw [merged, mergedItems_eq ih]
  | obj hkeys _ ih => rw [merged, mergedMembers_eq ih, mergeMembers_of_nodup hkeys]
  | _ => rfl

/-- A printed document is read back, and blanks after it make no difference. -/
theorem read_pretty_append {j : Json} (hfree : NumberFree (nestingLimit - 1) j)
    (hdistinct : j.Distinct) {ws : List UInt8} (hws : IsBlanks ws) :
    read (Utf8.encode j.pretty ++ ws) = .ok j := by
  have hdocument : IsDocument (Utf8.encode j.pretty ++ ws) j :=
    ⟨[], _, ws, nofun, hws, hfree.spells_prettyAt 0, rfl⟩
  obtain ⟨rest, -, hstarts⟩ := isDocument_iff.mp hdocument
  exact read_eq_ok_iff.mpr ⟨j, rest, hstarts, hdistinct.merged_eq.symm⟩

end Conform.Json
