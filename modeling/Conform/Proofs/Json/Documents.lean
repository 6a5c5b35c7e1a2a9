import Conform.Json.Pointer
import Conform.Proofs.Json.Numbers
import Conform.Proofs.Json.Parts

/-!
# Reading documents

A text is read if it starts with a document, and what it is read as is that document. The grammar
says which texts are documents; reading adds only where a document ends. What comes after the first
document is not looked at, so that a text of which only the beginning is a document is read like the
beginning.

## Main results

- `Json.Reader.reads_value` — the reader of documents accepts the texts of the grammar
- `Json.StartsWith.unique` — a text starts with at most one document
- `Json.read_eq_ok_iff` — which texts are read, and as what
- `Document.reads_leading_document` — the same for the values that are made of them
-/

namespace Conform

namespace Json

-- ════════════════════════════════════════════════════════════════════════
-- Texts of documents
-- ════════════════════════════════════════════════════════════════════════

theorem exists_head_of_scalarText {text : List UInt8} {document : Json}
    (h : ScalarText text document) :
    ∃ b more, text = b :: more ∧ Reader.isBlank b = false ∧ b ≠ 91 ∧ b ≠ 93 ∧ b ≠ 123 := by
  cases h with
  | null => exact ⟨_, _, rfl, by decide⟩
  | true => exact ⟨_, _, rfl, by decide⟩
  | false => exact ⟨_, _, rfl, by decide⟩
  | @num t n hn =>
    obtain ⟨b, more, htext, rfl | ⟨d, rfl⟩⟩ := t.exists_head
    · exact ⟨45, more, htext, by decide⟩
    · have hne : ∀ {b : UInt8}, (b.toNat < 48 ∨ 57 < b.toNat) → digitByte d ≠ b := fun h =>
        digitByte_ne h d
      have hblank : Reader.isBlank (digitByte d) = false := by
        simp [Reader.isBlank, hne]
      exact ⟨_, more, htext, hblank, hne (by decide), hne (by decide), hne (by decide)⟩
  | str hs =>
    obtain ⟨contents, rfl, -⟩ := hs
    exact ⟨_, _, rfl, by decide⟩

/-- A document is a scalar, or a list or an object of documents that nest less deeply. -/
theorem spells_iff {levels : Nat} {text : List UInt8} {document : Json} :
    Spells levels text document ↔ ScalarText text document ∨
      ∃ inside, levels = inside + 1 ∧ CompoundText (Spells inside) text document := by
  cases levels <;> simp [Spells]

theorem exists_head_of_spells {levels : Nat} {text : List UInt8} {document : Json}
    (h : Spells levels text document) :
    ∃ b more, text = b :: more ∧ Reader.isBlank b = false ∧ b ≠ 93 := by
  rcases spells_iff.1 h with h | ⟨inside, -, h⟩
  · obtain ⟨b, more, htext, hblank, -, hb, -⟩ := exists_head_of_scalarText h
    exact ⟨b, more, htext, hblank, hb⟩
  · cases h with
    | list => exact ⟨_, _, rfl, by decide, by decide⟩
    | object => exact ⟨_, _, rfl, by decide, by decide⟩

theorem stops_of_compoundText {Item : List UInt8 → Json → Prop} {text rest : List UInt8}
    {document : Json} (h : CompoundText Item text document) : Stops text rest := by
  cases h with
  | list => exact stops_of_head (by decide) (digitByte_ne (by decide))
  | object => exact stops_of_head (by decide) (digitByte_ne (by decide))

-- ════════════════════════════════════════════════════════════════════════
-- Scalars
-- ════════════════════════════════════════════════════════════════════════

namespace Reader

variable {c c' : Cursor}

theorem gives_word {bs : List UInt8} {word document : Json} :
    (do advance; literal bs; return word : Reader Json).Gives c document c' ↔
      c.next.Past bs c' ∧ document = word := by
  rw [gives_advance_bind, gives_bind]
  simp only [gives_literal, gives_pure]
  constructor
  · rintro ⟨_, c₁, hpast, rfl, rfl⟩
    exact ⟨hpast, rfl⟩
  · rintro ⟨hpast, rfl⟩
    exact ⟨(), c', hpast, rfl, rfl⟩

/-- A scalar is read as what the bytes that are read say. -/
theorem exists_scalarText_of_gives {b : UInt8} {document : Json} (hb : c.rest.head? = some b)
    (h : (scalar b).Gives c document c') :
    ∃ text, ScalarText text document ∧ c.Past text c' ∧ Stops text c'.rest := by
  have past {text} (hpast : c.next.Past text c') : c.Past (b :: text) c' :=
    Cursor.past_cons_iff.2 ⟨hb, hpast⟩
  have word {bs w} (hw : ScalarText (b :: bs) w) (hstops : Stops (b :: bs) c'.rest)
      (hword : (do advance; literal bs; return w : Reader Json).Gives c document c') :
      ∃ text, ScalarText text document ∧ c.Past text c' ∧ Stops text c'.rest := by
    obtain ⟨hpast, rfl⟩ := gives_word.1 hword
    exact ⟨_, hw, past hpast, hstops⟩
  have num {negative n} (hn : (number negative).Gives (if negative then c.next else c) n c')
      (hsign : negative = true → b = 45) :
      ∃ text, ScalarText text (.num n) ∧ c.Past text c' ∧ Stops text c'.rest := by
    obtain ⟨t, rfl, hpast, hvalue, hends⟩ := gives_number.1 hn
    refine ⟨t.text, .num hvalue, ?_, NumberText.stops_text_iff.2 hends⟩
    cases hnegative : t.negative with
    | true =>
      rw [hnegative, if_pos rfl] at hpast
      obtain rfl := hsign hnegative
      rw [NumberText.text, if_pos hnegative]
      exact past hpast
    | false =>
      rw [hnegative, if_neg (by decide)] at hpast
      rw [NumberText.text, if_neg (by simp [hnegative])]
      exact hpast
  unfold scalar at h
  split at h
  · subst b
    exact word .null (stops_of_head (by decide) (digitByte_ne (by decide))) h
  split at h
  · subst b
    exact word .true (stops_of_head (by decide) (digitByte_ne (by decide))) h
  split at h
  · subst b
    exact word .false (stops_of_head (by decide) (digitByte_ne (by decide))) h
  split at h
  · subst b
    obtain ⟨n, c₁, hn, h⟩ := gives_bind.1 (gives_advance_bind.1 h)
    obtain ⟨rfl, rfl⟩ := gives_pure.1 h
    exact num hn fun _ => rfl
  split at h
  · obtain ⟨n, c₁, hn, h⟩ := gives_bind.1 h
    obtain ⟨rfl, rfl⟩ := gives_pure.1 h
    exact num hn nofun
  split at h
  · subst b
    obtain ⟨s, c₁, hs, h⟩ := gives_bind.1 (gives_advance_bind.1 h)
    obtain ⟨rfl, rfl⟩ := gives_pure.1 h
    obtain ⟨contents, hcontents, hpast⟩ := gives_string.1 hs
    exact ⟨_, .str ⟨contents, rfl, hcontents⟩, past hpast,
      stops_of_head (by decide) (digitByte_ne (by decide))⟩
  · exact absurd h not_gives_failNext

theorem gives_scalar_of_number {b : UInt8} {t : NumberText} {n : Num}
    (hb : c.rest.head? = some b) (hn : t.value? = some n) (hpast : c.Past t.text c')
    (hstops : Stops t.text c'.rest) : (scalar b).Gives c (.num n) c' := by
  have hends := NumberText.stops_text_iff.1 hstops
  cases hnegative : t.negative with
  | true =>
    rw [NumberText.text, if_pos hnegative, Cursor.past_cons_iff, hb] at hpast
    obtain ⟨hb, hpast⟩ := hpast
    obtain rfl := Option.some.inj hb
    refine gives_advance_bind.2 (gives_bind.2 ?_)
    exact ⟨n, c', gives_number.2 ⟨t, hnegative, hpast, hn, hends⟩, gives_pure.2 ⟨rfl, rfl⟩⟩
  | false =>
    rw [NumberText.text, if_neg (by simp [hnegative])] at hpast
    have hnumber := gives_number.2 ⟨t, hnegative, hpast, hn, hends⟩
    obtain ⟨d, ds, hwhole⟩ := List.exists_cons_of_ne_nil t.whole_ne
    have hdigit : c.rest.head? = some (digitByte d) := by
      rw [NumberText.unsigned, hwhole] at hpast
      exact (Cursor.past_cons_iff.1 hpast).1
    obtain rfl := Option.some.inj (hb.symm.trans hdigit)
    unfold scalar
    rw [if_neg (digitByte_ne (by decide) d), if_neg (digitByte_ne (by decide) d),
      if_neg (digitByte_ne (by decide) d), if_neg (digitByte_ne (by decide) d),
      if_pos (by rw [digitValue?_digitByte]; rfl)]
    exact gives_bind.2 ⟨n, c', hnumber, gives_pure.2 ⟨rfl, rfl⟩⟩

/-- A value that is no list and no object, from its first byte on. -/
theorem gives_scalar {b : UInt8} {document : Json} (hb : c.rest.head? = some b) :
    (scalar b).Gives c document c' ↔
      ∃ text, ScalarText text document ∧ c.Past text c' ∧ Stops text c'.rest := by
  refine ⟨exists_scalarText_of_gives hb, ?_⟩
  rintro ⟨text, htext, hpast, hstops⟩
  have head {a text} (hpast : c.Past (a :: text) c') : a = b ∧ c.next.Past text c' := by
    rw [Cursor.past_cons_iff, hb] at hpast
    exact ⟨(Option.some.inj hpast.1).symm, hpast.2⟩
  cases htext with
  | null =>
    obtain ⟨rfl, hpast⟩ := head hpast
    exact gives_word.2 ⟨hpast, rfl⟩
  | true =>
    obtain ⟨rfl, hpast⟩ := head hpast
    exact gives_word.2 ⟨hpast, rfl⟩
  | false =>
    obtain ⟨rfl, hpast⟩ := head hpast
    exact gives_word.2 ⟨hpast, rfl⟩
  | num hn => exact gives_scalar_of_number hb hn hpast hstops
  | @str text s hs =>
    obtain ⟨contents, rfl, hcontents⟩ := hs
    obtain ⟨rfl, hpast⟩ := head hpast
    refine gives_advance_bind.2 (gives_bind.2 ?_)
    exact ⟨s, c', gives_string.2 ⟨contents, hcontents, hpast⟩, gives_pure.2 ⟨rfl, rfl⟩⟩

-- ════════════════════════════════════════════════════════════════════════
-- Documents
-- ════════════════════════════════════════════════════════════════════════

@[simp] theorem gives_enter {levels : Nat} {inside : Reader α} {a : α} :
    (enter levels inside).Gives c a c' ↔ 1 < levels ∧ inside.Gives c.next a c' := by
  unfold enter
  by_cases h : levels ≤ 1
  · simp [h, Nat.not_lt.2 h]
  · simp [h, Nat.not_le.1 h]

/-- From its opening bracket on, a list or an object is read if what is inside nests less deeply. -/
theorem gives_opened {levels : Nat} {b : UInt8} {body : Reader Json} {document : Json}
    (hb : b = 91 ∨ b = 123)
    (hbody : ∀ inside, levels = inside + 1 → (body.Gives c.next document c' ↔
      ∃ text, CompoundText (Spells inside) (b :: text) document ∧ c.next.Past text c'))
    (hhead : c.rest.head? = some b) :
    (enter (levels + 1) body).Gives c document c' ↔
      ∃ text, Spells levels text document ∧ c.Past text c' ∧ Stops text c'.rest := by
  rw [gives_enter]
  constructor
  · rintro ⟨hlevels, h⟩
    obtain ⟨inside, hinside⟩ : ∃ inside, levels = inside + 1 := ⟨levels - 1, by omega⟩
    obtain ⟨text, htext, hpast⟩ := (hbody inside hinside).1 h
    exact ⟨b :: text, spells_iff.2 (.inr ⟨inside, hinside, htext⟩),
      Cursor.past_cons_iff.2 ⟨hhead, hpast⟩, stops_of_compoundText htext⟩
  · rintro ⟨text, htext, hpast, -⟩
    obtain ⟨a, more, rfl, -⟩ := exists_head_of_spells htext
    rw [Cursor.past_cons_iff, hhead] at hpast
    obtain rfl := Option.some.inj hpast.1
    rcases spells_iff.1 htext with hscalar | ⟨inside, hinside, hcompound⟩
    · obtain ⟨_, _, heq, -, hlist, -, hobject⟩ := exists_head_of_scalarText hscalar
      obtain ⟨rfl, rfl⟩ := List.cons.inj heq
      exact (hb.elim hlist hobject).elim
    · exact ⟨by omega, (hbody inside hinside).2 ⟨more, hcompound, hpast.2⟩⟩

/-- One level of a document is read if those inside it are. -/
theorem reads_level {levels : Nat}
    (hinside : ∀ inside, levels = inside + 1 → Reads (value levels) (Spells inside)) :
    Reads (value (levels + 1)) (Spells levels) := by
  refine ⟨fun {c c' document} => ?_, exists_head_of_spells⟩
  unfold value
  rw [gives_blank_bind (by simp)]
  constructor
  · rintro ⟨ws, b, c₁, hws, hblanks, hhead, -, h⟩
    suffices ∃ text, Spells levels text document ∧ c₁.Past text c' ∧ Stops text c'.rest by
      obtain ⟨text, htext, hpast, hstops⟩ := this
      exact ⟨ws, text, hws, htext, hblanks.append hpast, hstops⟩
    dsimp only at h
    split at h
    · next hb =>
      subst hb
      exact (gives_opened (.inl rfl) (fun _ h => gives_list (hinside _ h)) hhead).1 h
    split at h
    · next hb =>
      subst hb
      exact (gives_opened (.inr rfl) (fun _ h => gives_object (hinside _ h)) hhead).1 h
    · obtain ⟨text, htext, hpast, hstops⟩ := (gives_scalar hhead).1 h
      exact ⟨text, spells_iff.2 (.inl htext), hpast, hstops⟩
  · rintro ⟨ws, text, hws, htext, hpast, hstops⟩
    obtain ⟨c₁, hblanks, hpast⟩ := Cursor.past_append_iff.1 hpast
    obtain ⟨b, more, rfl, htoken, -⟩ := exists_head_of_spells htext
    have hhead := (Cursor.past_cons_iff.1 hpast).1
    refine ⟨ws, b, c₁, hws, hblanks, hhead, htoken, ?_⟩
    dsimp only
    split
    · next hb =>
      subst hb
      exact (gives_opened (.inl rfl) (fun _ h => gives_list (hinside _ h)) hhead).2
        ⟨_, htext, hpast, hstops⟩
    split
    · next hb =>
      subst hb
      exact (gives_opened (.inr rfl) (fun _ h => gives_object (hinside _ h)) hhead).2
        ⟨_, htext, hpast, hstops⟩
    · next hlist hobject =>
      refine (gives_scalar hhead).2 ⟨_, ?_, hpast, hstops⟩
      rcases spells_iff.1 htext with hscalar | ⟨inside, -, hcompound⟩
      · exact hscalar
      · cases hcompound with
        | list => exact absurd rfl hlist
        | object => exact absurd rfl hobject

/-- The reader of documents accepts the texts of documents that nest no deeper than it may go. -/
theorem reads_value (levels : Nat) : Reads (value (levels + 1)) (Spells levels) := by
  induction levels with
  | zero => exact reads_level nofun
  | succ levels ih =>
    refine reads_level fun inside hinside => ?_
    obtain rfl := Nat.succ.inj hinside
    exact ih

end Reader

-- ════════════════════════════════════════════════════════════════════════
-- Whole texts
-- ════════════════════════════════════════════════════════════════════════

/-- The reader takes the document that the unread bytes start with, and leaves the rest. -/
theorem startsWith_iff {c : Cursor} {document : Json} {rest : List UInt8} :
    StartsWith c.rest document rest ↔
      ∃ c', (Reader.value nestingLimit).Gives c document c' ∧ c'.rest = rest := by
  have hvalue : Reader.Reads (Reader.value nestingLimit) (Spells (nestingLimit - 1)) :=
    Reader.reads_value (nestingLimit - 1)
  constructor
  · rintro ⟨ws, text, hws, htext, hstops, hbytes⟩
    rw [← List.append_assoc] at hbytes
    obtain ⟨c', hpast, rfl⟩ := Cursor.exists_past hbytes
    exact ⟨c', hvalue.gives_iff.2 ⟨ws, text, hws, htext, hpast, hstops⟩, rfl⟩
  · rintro ⟨c', hgives, rfl⟩
    obtain ⟨ws, text, hws, htext, hpast, hstops⟩ := hvalue.gives_iff.1 hgives
    exact ⟨ws, text, hws, htext, hstops, by rw [← List.append_assoc, hpast.rest]⟩

/-- A text starts with at most one document, and goes on in one way. -/
theorem StartsWith.unique {bytes rest rest' : List UInt8} {document document' : Json}
    (h : StartsWith bytes document rest) (h' : StartsWith bytes document' rest') :
    document = document' ∧ rest = rest' := by
  obtain ⟨c₁, hgives, rfl⟩ := (startsWith_iff (c := Cursor.start bytes)).1 h
  obtain ⟨c₂, hgives', rfl⟩ := (startsWith_iff (c := Cursor.start bytes)).1 h'
  obtain ⟨rfl, rfl⟩ := hgives.unique hgives'
  exact ⟨rfl, rfl⟩

/-- The documents that are texts as a whole are those that they start with and that only blanks
    follow. -/
theorem isDocument_iff {bytes : List UInt8} {document : Json} :
    IsDocument bytes document ↔ ∃ ws, IsBlanks ws ∧ StartsWith bytes document ws := by
  constructor
  · rintro ⟨ws, text, ws', hws, hws', htext, rfl⟩
    have hend : Cursor.AtDelimiter ⟨ws', ⟨1, 0⟩⟩ := fun b hb =>
      .inl (hws' b (List.mem_of_mem_head? hb))
    exact ⟨ws', hws', ws, text, hws, htext, hend.stops text, rfl⟩
  · rintro ⟨ws', hws', ws, text, hws, htext, -, rfl⟩
    exact ⟨ws, text, ws', hws, hws', htext, rfl⟩

theorem map_eq_ok_iff {ε α β : Type} {x : Except ε α} {f : α → β} {b : β} :
    x.map f = .ok b ↔ ∃ a, x = .ok a ∧ b = f a := by
  cases x <;> simp [Except.map, eq_comm]

/-- A text is read if it starts with a document, and as that document. -/
theorem read_eq_ok_iff {bytes : List UInt8} {document : Json} :
    read bytes = .ok document ↔
      ∃ written rest, StartsWith bytes written rest ∧ document = written.merged := by
  unfold read
  rw [map_eq_ok_iff]
  constructor
  · rintro ⟨written, hrun, rfl⟩
    obtain ⟨c', hgives⟩ := Reader.run_eq_ok_iff.1 hrun
    exact ⟨written, c'.rest, startsWith_iff.2 ⟨c', hgives, rfl⟩, rfl⟩
  · rintro ⟨written, rest, hstarts, rfl⟩
    obtain ⟨c', hgives, -⟩ := (startsWith_iff (c := Cursor.start bytes)).1 hstarts
    exact ⟨written, Reader.run_eq_ok_iff.2 ⟨c', hgives⟩, rfl⟩

end Json

/-- Reading answers the document that a text starts with, and what comes after that document is not
    looked at. In particular every text that is a document as a whole is read as that document. -/
theorem Document.reads_leading_document (bytes : List UInt8) :
    (∀ document, Json.read bytes = .ok document ↔
      ∃ written rest, Json.StartsWith bytes written rest ∧ document = written.merged) ∧
    (∀ value, Document.read bytes none = .ok value ↔
      ∃ written rest, Json.StartsWith bytes written rest ∧
        value = some (Value.ofJson written.merged)) ∧
    ∀ written, Json.IsDocument bytes written →
      Document.read bytes none = .ok (some (Value.ofJson written.merged)) := by
  have hread : ∀ value, Document.read bytes none = .ok value ↔
      ∃ written rest, Json.StartsWith bytes written rest ∧
        value = some (Value.ofJson written.merged) := by
    intro value
    unfold read
    rw [Json.map_eq_ok_iff]
    constructor
    · rintro ⟨document, hdocument, rfl⟩
      obtain ⟨written, rest, hstarts, rfl⟩ := Json.read_eq_ok_iff.1 hdocument
      exact ⟨written, rest, hstarts, rfl⟩
    · rintro ⟨written, rest, hstarts, rfl⟩
      exact ⟨written.merged, Json.read_eq_ok_iff.2 ⟨written, rest, hstarts, rfl⟩, rfl⟩
  refine ⟨fun document => Json.read_eq_ok_iff, hread, fun written hwritten => ?_⟩
  obtain ⟨ws, -, hstarts⟩ := Json.isDocument_iff.1 hwritten
  exact (hread _).2 ⟨written, ws, hstarts, rfl⟩

/-- A text that goes on after a document with anything but a blank is no document. -/
theorem Json.not_isDocument_of_startsWith {bytes rest : List UInt8} {b : UInt8} {document : Json}
    (h : Json.StartsWith bytes document (b :: rest)) (hb : Reader.isBlank b = false) :
    ¬ ∃ document, Json.IsDocument bytes document := by
  rintro ⟨document', hdocument⟩
  obtain ⟨ws, hws, hstarts⟩ := Json.isDocument_iff.1 hdocument
  obtain ⟨-, rfl⟩ := hstarts.unique h
  exact Bool.false_ne_true (hb.symm.trans (hws b List.mem_cons_self))

/-- A text that is no document is read all the same: the literal `null` and one more letter. -/
theorem Document.reads_null_and_letter :
    Document.read [110, 117, 108, 108, 120] none = .ok (some .null) ∧
      ¬ ∃ document, Json.IsDocument [110, 117, 108, 108, 120] document := by
  have hstarts : Json.StartsWith [110, 117, 108, 108, 120] .null [120] :=
    ⟨[], [110, 117, 108, 108], nofun, .inl .null,
      Json.stops_of_head (by decide) (Json.digitByte_ne (by decide)), rfl⟩
  exact ⟨rfl, Json.not_isDocument_of_startsWith hstarts (by decide)⟩

end Conform
