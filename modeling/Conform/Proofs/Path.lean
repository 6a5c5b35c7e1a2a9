import Conform.Proofs.Numeral
import Conform.Proofs.Text.Quoted
import Conform.Proofs.Text.Runs
import Conform.Report

/-!
# Reading paths back

The text of a path tells its keys. Every key starts with a dot or an opening bracket, identifiers
end where no further part of an identifier follows, quoted names end at their quote, and indices at
the first character that is no digit. The dot that is left out at the front is missed where the text
starts with a letter. Symbols are an exception, since their descriptions are written as they are.

## Main definitions

- `Path.SymbolFree` — a path of strings and indices
- `Path.AtSegment` — a text ends, or goes on with another key

## Main results

- `Path.segment_append_inj` — the text of one key is told apart from what follows it
- `Path.render_eq_empty_iff`, `Path.location_eq_root_iff` — texts of the root
- `Path.rendered_paths_unambiguous` — texts of paths tell their keys
-/

namespace Conform

namespace Path

/-- The path consists of strings and indices. -/
def SymbolFree (p : Path) : Prop := ∀ s, PropertyKey.symbol s ∉ p.keys

/-- The text ends here, or it goes on with another key. -/
def AtSegment (cs : List Char) : Prop := ∀ c ∈ cs.head?, c = '.' ∨ c = '['

-- ════════════════════════════════════════════════════════════════════════
-- Single keys
-- ════════════════════════════════════════════════════════════════════════

section Segments

variable {s t : String} {i j : Nat} {rest rest' : List Char}

theorem all_isIdentifierPart {cs : List Char} (h : IsIdentifier cs) :
    ∀ c ∈ cs, isIdentifierPart c = true := by
  cases cs with
  | nil => exact h.elim
  | cons c cs =>
    obtain ⟨hc, hcs⟩ := h
    rw [List.forall_mem_cons, isIdentifierPart, hc]
    exact ⟨rfl, List.all_eq_true.mp hcs⟩

theorem AtSegment.not_isIdentifierPart (h : AtSegment rest) :
    ∀ c ∈ rest.head?, isIdentifierPart c = false := by
  intro c hc
  rcases h c hc with rfl | rfl <;> rfl

theorem toList_segment_identifier (h : IsIdentifier s.toList) (rest : List Char) :
    (segment (.string s)).toList ++ rest = '.' :: (s.toList ++ rest) := by
  rw [segment, if_pos h, String.toList_append]
  rfl

theorem toList_bracketed (text : String) (rest : List Char) :
    ("[" ++ text ++ "]").toList ++ rest = '[' :: (text.toList ++ ']' :: rest) := by
  have hopening : "[".toList = ['['] := rfl
  have hclosing : "]".toList = [']'] := rfl
  rw [String.toList_append, String.toList_append, hopening, hclosing, List.append_assoc,
    List.append_assoc, List.singleton_append, List.singleton_append]

theorem toList_segment_quoted (h : ¬ IsIdentifier s.toList) (rest : List Char) :
    (segment (.string s)).toList ++ rest = '[' :: ((Quoted.quote s).toList ++ ']' :: rest) := by
  rw [segment, if_neg h, toList_bracketed]

theorem toList_segment_index (i : Nat) (rest : List Char) :
    (segment (.index i)).toList ++ rest = '[' :: (Nat.toDigits 10 i ++ ']' :: rest) := by
  rw [segment, toList_bracketed, Numeral.toList_toString]

/-- A key starts with a dot and the letter of an identifier, or with a bracket. -/
theorem segment_cases (key : PropertyKey) (rest : List Char) :
    (∃ c cs, isIdentifierStart c = true ∧ (segment key).toList ++ rest = '.' :: c :: cs) ∨
    ∃ cs, (segment key).toList ++ rest = '[' :: cs := by
  cases key with
  | string s =>
    by_cases h : IsIdentifier s.toList
    · left
      rw [toList_segment_identifier h]
      cases hs : s.toList with
      | nil =>
        rw [hs] at h
        exact h.elim
      | cons c cs =>
        rw [hs] at h
        exact ⟨c, cs ++ rest, h.1, rfl⟩
    · exact .inr ⟨_, toList_segment_quoted h rest⟩
  | index i => exact .inr ⟨_, toList_segment_index i rest⟩
  | symbol s => exact .inr ⟨_, toList_bracketed _ rest⟩

theorem atSegment_segment_append (key : PropertyKey) (rest : List Char) :
    AtSegment ((segment key).toList ++ rest) := by
  rcases segment_cases key rest with ⟨c, cs, -, h⟩ | ⟨cs, h⟩
  · rw [h]
    rintro c ⟨⟩
    exact .inl rfl
  · rw [h]
    rintro c ⟨⟩
    exact .inr rfl

theorem segment_append_ne_nil (key : PropertyKey) (rest : List Char) :
    (segment key).toList ++ rest ≠ [] := by
  rcases segment_cases key rest with ⟨c, cs, -, h⟩ | ⟨cs, h⟩
  · rw [h]
    exact List.cons_ne_nil _ _
  · rw [h]
    exact List.cons_ne_nil _ _

theorem isDigit_of_mem_toDigits {c : Char} (h : c ∈ Nat.toDigits 10 i) : c.isDigit = true :=
  Nat.isDigit_of_mem_toDigits (by decide) (by decide) h

/-- Digits and a quoted text differ in their first character. -/
theorem digits_append_ne_quote_append :
    Nat.toDigits 10 i ++ rest ≠ (Quoted.quote s).toList ++ rest' := by
  intro h
  rw [Quoted.toList_quote_append] at h
  obtain ⟨d, ds, hdigits⟩ := List.exists_cons_of_ne_nil (Nat.toDigits_ne_nil (n := i) (b := 10))
  have hd : d.isDigit = true := isDigit_of_mem_toDigits (hdigits ▸ List.mem_cons_self)
  rw [hdigits, List.cons_append, List.cons.injEq] at h
  rw [h.1] at hd
  cases hd

theorem toDigits_append_inj
    (h : Nat.toDigits 10 i ++ ']' :: rest = Nat.toDigits 10 j ++ ']' :: rest') :
    i = j ∧ rest = rest' := by
  have hbracket (cs : List Char) : ∀ c ∈ (']' :: cs).head?, c.isDigit = false := by
    rintro c ⟨⟩
    rfl
  obtain ⟨hdigits, hrest⟩ := Run.append_inj (fun _ => isDigit_of_mem_toDigits)
    (fun _ => isDigit_of_mem_toDigits) (hbracket rest) (hbracket rest') h
  refine ⟨?_, (List.cons.inj hrest).2⟩
  rw [← Numeral.ofDigits_toDigits i, hdigits, Numeral.ofDigits_toDigits]

theorem segment_identifier_ne_bracket (hs : IsIdentifier s.toList) :
    (segment (.string s)).toList ++ rest ≠ '[' :: rest' := by
  rw [toList_segment_identifier hs]
  intro h
  cases (List.cons.inj h).1

theorem segment_string_ne_index :
    (segment (.string s)).toList ++ rest ≠ (segment (.index i)).toList ++ rest' := by
  rw [toList_segment_index]
  by_cases hs : IsIdentifier s.toList
  · exact segment_identifier_ne_bracket hs
  · rw [toList_segment_quoted hs]
    intro h
    exact digits_append_ne_quote_append (List.cons.inj h).2.symm

theorem segment_string_append_inj (hrest : AtSegment rest) (hrest' : AtSegment rest')
    (h : (segment (.string s)).toList ++ rest = (segment (.string t)).toList ++ rest') :
    s = t ∧ rest = rest' := by
  by_cases hs : IsIdentifier s.toList
  · by_cases ht : IsIdentifier t.toList
    · rw [toList_segment_identifier hs, toList_segment_identifier ht] at h
      obtain ⟨hst, hrests⟩ := Run.append_inj (all_isIdentifierPart hs)
        (all_isIdentifierPart ht) hrest.not_isIdentifierPart hrest'.not_isIdentifierPart
        (List.cons.inj h).2
      exact ⟨String.toList_inj.mp hst, hrests⟩
    · rw [toList_segment_quoted ht] at h
      exact absurd h (segment_identifier_ne_bracket hs)
  · by_cases ht : IsIdentifier t.toList
    · rw [toList_segment_quoted hs] at h
      exact absurd h.symm (segment_identifier_ne_bracket ht)
    · rw [toList_segment_quoted hs, toList_segment_quoted ht] at h
      obtain ⟨hst, hrests⟩ := Quoted.quote_append_inj (List.cons.inj h).2
      exact ⟨hst, (List.cons.inj hrests).2⟩

/-- The text of one key is told apart from that of the keys that follow it. -/
theorem segment_append_inj {key key' : PropertyKey} (hkey : ∀ s, key ≠ .symbol s)
    (hkey' : ∀ s, key' ≠ .symbol s) (hrest : AtSegment rest) (hrest' : AtSegment rest')
    (h : (segment key).toList ++ rest = (segment key').toList ++ rest') :
    key = key' ∧ rest = rest' := by
  cases key with
  | symbol s => exact absurd rfl (hkey s)
  | string s =>
    cases key' with
    | symbol t => exact absurd rfl (hkey' t)
    | string t =>
      obtain ⟨rfl, hrests⟩ := segment_string_append_inj hrest hrest' h
      exact ⟨rfl, hrests⟩
    | index j => exact absurd h segment_string_ne_index
  | index i =>
    cases key' with
    | symbol t => exact absurd rfl (hkey' t)
    | string t => exact absurd h.symm segment_string_ne_index
    | index j =>
      rw [toList_segment_index, toList_segment_index] at h
      obtain ⟨rfl, hrests⟩ := toDigits_append_inj (List.cons.inj h).2
      exact ⟨rfl, hrests⟩

end Segments

-- ════════════════════════════════════════════════════════════════════════
-- Rows of keys
-- ════════════════════════════════════════════════════════════════════════

theorem toList_segments_cons (key : PropertyKey) (keys : List PropertyKey) :
    (segments (key :: keys)).toList = (segment key).toList ++ (segments keys).toList := by
  rw [segments, segments, List.map_cons, String.join_cons, String.toList_append]

theorem atSegment_segments (keys : List PropertyKey) : AtSegment (segments keys).toList := by
  cases keys with
  | nil => exact nofun
  | cons key keys =>
    rw [toList_segments_cons]
    exact atSegment_segment_append key _

/-- Keys that are no symbols are told by their text. -/
theorem segments_inj {keys keys' : List PropertyKey} (hkeys : ∀ s, .symbol s ∉ keys)
    (hkeys' : ∀ s, .symbol s ∉ keys')
    (h : (segments keys).toList = (segments keys').toList) : keys = keys' := by
  induction keys generalizing keys' with
  | nil =>
    cases keys' with
    | nil => rfl
    | cons key' keys' =>
      rw [toList_segments_cons] at h
      exact absurd h.symm (segment_append_ne_nil key' _)
  | cons key keys ih =>
    cases keys' with
    | nil =>
      rw [toList_segments_cons] at h
      exact absurd h (segment_append_ne_nil key _)
    | cons key' keys' =>
      rw [toList_segments_cons, toList_segments_cons] at h
      have hkey : ∀ s, key ≠ .symbol s := fun s hs => hkeys s (hs ▸ List.mem_cons_self)
      have hkey' : ∀ s, key' ≠ .symbol s := fun s hs => hkeys' s (hs ▸ List.mem_cons_self)
      obtain ⟨rfl, hrest⟩ := segment_append_inj hkey hkey' (atSegment_segments keys)
        (atSegment_segments keys') h
      have htail := ih (fun s hs => hkeys s (List.mem_cons_of_mem _ hs))
        (fun s hs => hkeys' s (List.mem_cons_of_mem _ hs)) hrest
      rw [htail]

-- ════════════════════════════════════════════════════════════════════════
-- Paths
-- ════════════════════════════════════════════════════════════════════════

/-- The text of a path that is not the root starts with the letter of an identifier, in front of
    which a dot is left out, or with a bracket. -/
theorem render_cases {p : Path} (h : p.isRoot = false) :
    (∃ c cs, isIdentifierStart c = true ∧ (segments p.keys).toList = '.' :: c :: cs ∧
      p.render.toList = c :: cs) ∨
    ∃ cs, (segments p.keys).toList = '[' :: cs ∧ p.render.toList = '[' :: cs := by
  obtain ⟨keys⟩ := p
  cases keys with
  | nil => cases h
  | cons key keys =>
    rw [toList_segments_cons, render, toList_segments_cons]
    rcases segment_cases key (segments keys).toList with ⟨c, cs, hc, htext⟩ | ⟨cs, htext⟩
    · rw [htext]
      exact .inl ⟨c, cs, hc, rfl, String.toList_ofList⟩
    · rw [htext]
      exact .inr ⟨cs, rfl, String.toList_ofList⟩

theorem isRoot_eq_true_iff {p : Path} : p.isRoot = true ↔ p = root := by
  obtain ⟨keys⟩ := p
  cases keys with
  | nil => exact ⟨fun _ => rfl, fun _ => rfl⟩
  | cons key keys => exact ⟨nofun, nofun⟩

/-- What a path that is not the root is not: a text that starts with neither a letter of an
    identifier nor a bracket. -/
theorem render_ne {p : Path} (h : p.isRoot = false) {text : String}
    (hstart : ∀ c ∈ text.toList.head?, isIdentifierStart c = false ∧ c ≠ '[') :
    p.render ≠ text := by
  rintro rfl
  rcases render_cases h with ⟨c, cs, hc, -, htext⟩ | ⟨cs, -, htext⟩
  · rw [htext] at hstart
    exact absurd hc (by simp [(hstart c rfl).1])
  · rw [htext] at hstart
    exact (hstart '[' rfl).2 rfl

theorem render_eq_empty_iff {p : Path} : p.render = "" ↔ p = root := by
  constructor
  · intro h
    cases hroot : p.isRoot with
    | true => exact isRoot_eq_true_iff.mp hroot
    | false => exact absurd h (render_ne hroot nofun)
  · rintro rfl
    rfl

theorem location_eq_root_iff {p : Path} : p.location = "<root>" ↔ p = root := by
  constructor
  · intro h
    cases hroot : p.isRoot with
    | true => exact isRoot_eq_true_iff.mp hroot
    | false =>
      rw [location, hroot, if_neg Bool.false_ne_true] at h
      refine absurd h (render_ne hroot ?_)
      rintro c ⟨⟩
      exact ⟨rfl, by decide⟩
  · rintro rfl
    rfl

/-- The text of a path tells the text of its keys. -/
theorem segments_eq_of_render_eq {p q : Path} (h : p.render = q.render) :
    (segments p.keys).toList = (segments q.keys).toList := by
  have hroots {p q : Path} (hp : p.isRoot = true) (hpq : p.render = q.render) : q = p := by
    obtain rfl := isRoot_eq_true_iff.mp hp
    exact render_eq_empty_iff.mp hpq.symm
  cases hp : p.isRoot with
  | true => rw [hroots hp h]
  | false =>
    cases hq : q.isRoot with
    | true => rw [hroots hq h.symm]
    | false =>
      rcases render_cases hp with ⟨c, cs, hc, hkeys, htext⟩ | ⟨cs, hkeys, htext⟩
      · rcases render_cases hq with ⟨c', cs', -, hkeys', htext'⟩ | ⟨cs', -, htext'⟩
        · rw [hkeys, hkeys', ← htext, ← htext', h]
        · -- no identifier starts with a bracket
          rw [h, htext'] at htext
          rw [← (List.cons.inj htext).1] at hc
          cases hc
      · rcases render_cases hq with ⟨c', cs', hc', -, htext'⟩ | ⟨cs', hkeys', htext'⟩
        · rw [← h, htext] at htext'
          rw [← (List.cons.inj htext').1] at hc'
          cases hc'
        · rw [hkeys, hkeys', ← htext, ← htext', h]

theorem render_inj {p q : Path} (hp : p.SymbolFree) (hq : q.SymbolFree)
    (h : p.render = q.render) : p = q := by
  have hkeys := segments_inj hp hq (segments_eq_of_render_eq h)
  cases p
  cases q
  rw [Path.mk.injEq]
  exact hkeys

/-- Texts of paths are unambiguous. Paths of strings and indices that have the same text are the
    same key for key, both as texts and as locations in messages. The root alone has the empty text,
    and the root alone is located at its own name, whatever keys a path has. -/
theorem rendered_paths_unambiguous :
    (∀ p q : Path, p.SymbolFree → q.SymbolFree → p.render = q.render → p = q) ∧
    (∀ p : Path, p.render = "" ↔ p = root) ∧
    (∀ r r' : Report, r.path.SymbolFree → r'.path.SymbolFree → r.location = r'.location →
      r.path = r'.path) ∧
    ∀ r : Report, r.location = "<root>" ↔ r.path = root := by
  refine ⟨fun p q => render_inj, fun p => render_eq_empty_iff, ?_, fun r => location_eq_root_iff⟩
  intro r r' hr hr' h
  rw [Report.location, Report.location] at h
  cases hroot : r.path.isRoot with
  | true =>
    rw [isRoot_eq_true_iff.mp hroot] at h ⊢
    exact (location_eq_root_iff.mp h.symm).symm
  | false =>
    cases hroot' : r'.path.isRoot with
    | true =>
      rw [isRoot_eq_true_iff.mp hroot'] at h ⊢
      exact location_eq_root_iff.mp h
    | false =>
      rw [location, location, hroot, hroot'] at h
      exact render_inj hr hr' h

/-- A name that looks like the text of two names and of an index. -/
def bracketed : Path := ⟨[.string "1\"][\"2", .index 0]⟩

/-- Three names, the last of them a numeral. -/
def unbracketed : Path := ⟨[.string "1", .string "2", .string "0"]⟩

theorem rendered_paths_unambiguous_brackets :
    bracketed.SymbolFree ∧ unbracketed.SymbolFree ∧ bracketed.render ≠ unbracketed.render ∧
    (Report.mk bracketed "" none).location ≠ (Report.mk unbracketed "" none).location := by
  have hbracketed : bracketed.SymbolFree := by
    intro s hs
    simp [bracketed] at hs
  have hunbracketed : unbracketed.SymbolFree := by
    intro s hs
    simp [unbracketed] at hs
  have hne : bracketed ≠ unbracketed := by decide
  obtain ⟨hrender, -, hlocation, -⟩ := rendered_paths_unambiguous
  refine ⟨hbracketed, hunbracketed, ?_, ?_⟩
  · intro h
    exact hne (hrender _ _ hbracketed hunbracketed h)
  · intro h
    exact hne (hlocation ⟨bracketed, "", none⟩ ⟨unbracketed, "", none⟩ hbracketed hunbracketed h)

end Path

end Conform
