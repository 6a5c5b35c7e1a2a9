import Conform.Json.Document
import Conform.Proofs.Json.Ends
import Conform.Proofs.Json.Strings

/-!
# Reading lists and objects

The readers of lists and objects accept the texts of their parts with commas between them, if the
reader of the parts accepts the texts of those. A list is read by looking for its end before each
item, an object by looking for the next key; both stop in front of the closing bracket.

## Main definitions

- `Json.Reader.Reads` — a reader accepts the texts of a part

## Main results

- `Json.Reader.gives_list` — a list after its opening bracket
- `Json.Reader.gives_object` — an object after its opening bracket
-/

namespace Conform.Json.Reader

variable {c c' : Cursor}

-- ════════════════════════════════════════════════════════════════════════
-- Lists
-- ════════════════════════════════════════════════════════════════════════

variable {α : Type} {Part : List UInt8 → α → Prop} {item : Reader α}

/-- The reader accepts the texts of a part, with blanks in front of them. Such a text starts neither
    with a blank nor with the end of a list. -/
structure Reads (item : Reader α) (Part : List UInt8 → α → Prop) : Prop where
  gives_iff : ∀ {c c' a}, item.Gives c a c' ↔
    ∃ ws text, IsBlanks ws ∧ Part text a ∧ c.Past (ws ++ text) c' ∧ Stops text c'.rest
  head : ∀ {text a}, Part text a → ∃ b more, text = b :: more ∧ isBlank b = false ∧ b ≠ 93

/-- Before the first item, a list is looked at for its end. -/
theorem gives_hasItem_true {more : Bool} :
    (hasItem true).Gives c more c' ↔
      ∃ ws b, IsBlanks ws ∧ c.Past ws c' ∧ c'.rest.head? = some b ∧ isBlank b = false ∧
        more = (b != 93) := by
  unfold hasItem
  rw [gives_blank_bind (by simp)]
  constructor
  · rintro ⟨ws, b, c₁, hws, hpast, hhead, htoken, h⟩
    obtain ⟨rfl, rfl⟩ : more = (b != 93) ∧ c' = c₁ := by
      by_cases hb : b = 93
      · simpa [hb] using h
      · simpa [hb, bne_iff_ne.2 hb] using h
    exact ⟨ws, b, hws, hpast, hhead, htoken, rfl⟩
  · rintro ⟨ws, b, hws, hpast, hhead, htoken, rfl⟩
    refine ⟨ws, b, c', hws, hpast, hhead, htoken, ?_⟩
    by_cases hb : b = 93 <;> simp [hb]

/-- After an item, a list ends or goes on after a comma. -/
theorem gives_hasItem_false {more : Bool} :
    (hasItem false).Gives c more c' ↔
      (more = false ∧ ∃ ws, IsBlanks ws ∧ c.Past ws c' ∧ c'.rest.head? = some 93) ∨
        more = true ∧ ∃ ws ws' b, IsBlanks ws ∧ IsBlanks ws' ∧ c.Past (ws ++ 44 :: ws') c' ∧
          c'.rest.head? = some b ∧ isBlank b = false ∧ b ≠ 93 := by
  unfold hasItem
  rw [gives_blank_bind (by simp)]
  constructor
  · rintro ⟨ws, b, c₁, hws, hpast, hhead, -, h⟩
    dsimp only at h
    split at h
    · next hb =>
      obtain ⟨rfl, rfl⟩ := gives_pure.1 h
      exact .inl ⟨rfl, ws, hws, hpast, hb ▸ hhead⟩
    · rw [if_neg (by simp)] at h
      split at h
      · next hb =>
        subst hb
        rw [gives_advance_bind, gives_blank_bind (by simp)] at h
        obtain ⟨ws', b, c₂, hws', hpast', hhead', htoken, h⟩ := h
        simp only [gives_ite, not_gives_failNext, gives_pure] at h
        split at h
        · exact h.elim
        · next hb =>
          obtain ⟨rfl, rfl⟩ := h
          refine .inr ⟨rfl, ws, ws', b, hws, hws', ?_, hhead', htoken, hb⟩
          exact hpast.append (Cursor.past_cons_iff.2 ⟨hhead, hpast'⟩)
      · simp at h
  · rintro (⟨rfl, ws, hws, hpast, hhead⟩ | ⟨rfl, ws, ws', b, hws, hws', hpast, hhead, htoken, hb⟩)
    · exact ⟨ws, 93, c', hws, hpast, hhead, by decide, by simp⟩
    · obtain ⟨c₁, hpast, hmore⟩ := Cursor.past_append_iff.1 hpast
      obtain ⟨hcomma, hmore⟩ := Cursor.past_cons_iff.1 hmore
      refine ⟨ws, 44, c₁, hws, hpast, hcomma, by decide, ?_⟩
      dsimp only
      rw [if_neg (by decide), if_neg (by decide), if_pos rfl, gives_advance_bind,
        gives_blank_bind (by simp)]
      exact ⟨ws', b, c', hws', hmore, hhead, htoken, by simp [hb]⟩

/-- An item and those after it, if the readings of those are known. -/
theorem gives_item_cons {fuel i : Nat} {as : List α} (hitem : Reads item Part)
    (hrest : ∀ {c : Cursor} {as}, c.rest.length < fuel → ((items item fuel (i + 1)).Gives c as c' ↔
      ∃ text, Tail Part text as ∧ c.Past text c' ∧ c'.rest.head? = some 93))
    (hfuel : c.rest.length < fuel + 1) :
    (do let a ← within (.index i) item
        let rest ← items item fuel (i + 1)
        return a :: rest : Reader (List α)).Gives c as c' ↔
      ∃ ws part text a rest, IsBlanks ws ∧ Part part a ∧ Tail Part text rest ∧ as = a :: rest ∧
        c.Past (ws ++ (part ++ text)) c' ∧ c'.rest.head? = some 93 := by
  rw [gives_bind]
  constructor
  · rintro ⟨a, c₁, ha, h⟩
    obtain ⟨rest, c₂, hitems, h⟩ := gives_bind.1 h
    obtain ⟨rfl, rfl⟩ := gives_pure.1 h
    obtain ⟨ws, part, hws, hpart, hpast, -⟩ := hitem.gives_iff.1 (gives_within.1 ha)
    obtain ⟨_, _, rfl, -⟩ := hitem.head hpart
    obtain ⟨text, htail, htext, hclose⟩ := (hrest (hpast.length_lt (by simp) hfuel)).1 hitems
    exact ⟨ws, _, text, a, rest, hws, hpart, htail, rfl, by simpa using hpast.append htext, hclose⟩
  · rintro ⟨ws, part, text, a, rest, hws, hpart, htail, rfl, hpast, hclose⟩
    rw [← List.append_assoc] at hpast
    obtain ⟨c₁, hpast, htext⟩ := Cursor.past_append_iff.1 hpast
    have hstops := (htail.atDelimiter htext (by simp [Cursor.AtDelimiter, hclose])).stops part
    obtain ⟨_, _, rfl, -⟩ := hitem.head hpart
    refine ⟨a, c₁, gives_within.2 (hitem.gives_iff.2 ⟨ws, _, hws, hpart, hpast, hstops⟩), ?_⟩
    exact gives_bind.2 ⟨rest, c', (hrest (hpast.length_lt (by simp) hfuel)).2
      ⟨text, htail, htext, hclose⟩, gives_pure.2 ⟨rfl, rfl⟩⟩

/-- After an item, a list is read up to its end. -/
theorem gives_items_succ {fuel i : Nat} {as : List α} (hitem : Reads item Part)
    (hfuel : c.rest.length < fuel) :
    (items item fuel (i + 1)).Gives c as c' ↔
      ∃ text, Tail Part text as ∧ c.Past text c' ∧ c'.rest.head? = some 93 := by
  induction fuel generalizing c i as with
  | zero => exact absurd hfuel (Nat.not_lt_zero _)
  | succ fuel ih =>
    unfold items
    rw [gives_bind]
    constructor
    · rintro ⟨more, c₁, hmore, h⟩
      rcases gives_hasItem_false.1 hmore with
        ⟨rfl, ws, hws, hpast, hclose⟩ | ⟨rfl, ws, ws', -, hws, hws', hpast, -⟩
      · obtain ⟨rfl, rfl⟩ := gives_pure.1 h
        exact ⟨ws, .done hws, hpast, hclose⟩
      · have hfuel' := Nat.lt_of_le_of_lt hpast.length_le hfuel
        obtain ⟨ws'', part, text, a, rest, hws'', hpart, htail, rfl, hpast', hclose⟩ :=
          (gives_item_cons hitem (fun h => ih h) hfuel').1 h
        refine ⟨_, .more hws (hws'.append hws'') hpart htail, ?_, hclose⟩
        simpa using hpast.append hpast'
    · rintro ⟨text, htail, hpast, hclose⟩
      cases htail with
      | done hws =>
        exact ⟨false, c', gives_hasItem_false.2 (.inl ⟨rfl, _, hws, hpast, hclose⟩),
          gives_pure.2 ⟨rfl, rfl⟩⟩
      | @more before after part text a rest hws hws' hpart htail =>
        obtain ⟨b, _, rfl, htoken, hb⟩ := hitem.head hpart
        rw [← List.cons_append, ← List.append_assoc before] at hpast
        obtain ⟨c₁, hcomma, hpast⟩ := Cursor.past_append_iff.1 hpast
        have hfuel' := Nat.lt_of_le_of_lt hcomma.length_le hfuel
        refine ⟨true, c₁, gives_hasItem_false.2 (.inr ⟨rfl, before, after, b, hws, hws', hcomma,
          (Cursor.past_cons_iff.1 hpast).1, htoken, hb⟩), ?_⟩
        exact (gives_item_cons hitem (fun h => ih h) hfuel').2
          ⟨[], _, text, a, rest, nofun, hpart, htail, rfl, hpast, hclose⟩

theorem gives_items {as : List α} (hitem : Reads item Part) :
    (items item (c.rest.length + 1) 0).Gives c as c' ↔
      ∃ text, Row Part text as ∧ c.Past text c' ∧ c'.rest.head? = some 93 := by
  unfold items
  rw [gives_bind]
  constructor
  · rintro ⟨more, c₁, hmore, h⟩
    obtain ⟨ws, b, hws, hpast, hhead, htoken, rfl⟩ := gives_hasItem_true.1 hmore
    by_cases hb : b = 93
    · subst hb
      obtain ⟨rfl, rfl⟩ := gives_pure.1 h
      exact ⟨ws, .none hws, hpast, hhead⟩
    · rw [if_pos (by simpa using hb)] at h
      obtain ⟨ws', part, text, a, rest, hws', hpart, htail, rfl, hpast', hclose⟩ :=
        (gives_item_cons hitem (gives_items_succ hitem) (Nat.lt_succ_of_le hpast.length_le)).1 h
      refine ⟨_, .some (hws.append hws') hpart htail, ?_, hclose⟩
      simpa using hpast.append hpast'
  · rintro ⟨text, hrow, hpast, hclose⟩
    cases hrow with
    | none hws =>
      refine ⟨false, c', gives_hasItem_true.2 ⟨_, 93, hws, hpast, hclose, by decide, by decide⟩, ?_⟩
      exact gives_pure.2 ⟨rfl, rfl⟩
    | @some ws part text a rest hws hpart htail =>
      obtain ⟨b, _, rfl, htoken, hb⟩ := hitem.head hpart
      obtain ⟨c₁, hblanks, hpast⟩ := Cursor.past_append_iff.1 hpast
      refine ⟨true, c₁, gives_hasItem_true.2 ⟨ws, b, hws, hblanks, (Cursor.past_cons_iff.1 hpast).1,
        htoken, by simpa using hb⟩, ?_⟩
      exact (gives_item_cons hitem (gives_items_succ hitem) (Nat.lt_succ_of_le hblanks.length_le)).2
        ⟨[], _, text, a, rest, nofun, hpart, htail, rfl, hpast, hclose⟩

theorem compoundText_list_iff {Item : List UInt8 → Json → Prop} {text : List UInt8}
    {document : Json} :
    CompoundText Item (91 :: text) document ↔
      ∃ row js, Row Item row js ∧ document = .arr js ∧ text = row ++ [93] := by
  constructor
  · intro h
    cases h with
    | list hrow => exact ⟨_, _, hrow, rfl, rfl⟩
  · rintro ⟨row, js, hrow, rfl, rfl⟩
    exact .list hrow

/-- A list after its opening bracket. -/
theorem gives_list {Item : List UInt8 → Json → Prop} {item : Reader Json} {document : Json}
    (hitem : Reads item Item) :
    (do let fuel ← remaining
        closedBy closeList do return .arr (← items item (fuel + 1) 0) : Reader Json).Gives
          c document c' ↔
      ∃ text, CompoundText Item (91 :: text) document ∧ c.Past text c' := by
  -- the items have been read up to the closing bracket, so that nothing is left to complain about
  have close {c : Cursor} (hclose : c.rest.head? = some 93) :
      closeList.Gives c () c' ↔ c.Past [93] c' := by
    unfold closeList
    rw [(gives_blank_of_head hclose (by decide)).bind_iff]
    simp [hclose]
  rw [gives_remaining_bind, gives_closedBy]
  simp only [gives_bind, gives_items hitem, gives_pure]
  constructor
  · rintro ⟨c₁, ⟨js, c₂, ⟨row, hrow, hpast, hhead⟩, rfl, rfl⟩, hclose⟩
    exact ⟨_, .list hrow, hpast.append ((close hhead).1 hclose)⟩
  · rintro ⟨text, htext, hpast⟩
    obtain ⟨row, js, hrow, rfl, rfl⟩ := compoundText_list_iff.1 htext
    obtain ⟨c₁, hpast, hclose⟩ := Cursor.past_append_iff.1 hpast
    have hhead := (Cursor.past_cons_iff.1 hclose).1
    exact ⟨c₁, ⟨js, c₁, ⟨row, hrow, hpast, hhead⟩, rfl, rfl⟩, (close hhead).2 hclose⟩

-- ════════════════════════════════════════════════════════════════════════
-- Objects
-- ════════════════════════════════════════════════════════════════════════

theorem gives_key {key : Option String} (hquote : c.rest.head? = some 34) :
    nextKey?.key.Gives c key c' ↔
      ∃ name text, key = some name ∧ StringText text name ∧ c.Past text c' := by
  unfold nextKey?.key
  rw [gives_advance_bind, gives_bind]
  constructor
  · rintro ⟨name, c₁, hname, h⟩
    obtain ⟨rfl, rfl⟩ := gives_pure.1 h
    obtain ⟨contents, hcontents, hpast⟩ := gives_string.1 hname
    exact ⟨name, _, rfl, ⟨contents, rfl, hcontents⟩, Cursor.past_cons_iff.2 ⟨hquote, hpast⟩⟩
  · rintro ⟨name, text, rfl, ⟨contents, rfl, hcontents⟩, hpast⟩
    exact ⟨name, c', gives_string.2 ⟨contents, hcontents, (Cursor.past_cons_iff.1 hpast).2⟩,
      gives_pure.2 ⟨rfl, rfl⟩⟩

/-- Before the first member, an object is looked at for its end. -/
theorem gives_nextKey?_true {key : Option String} :
    (nextKey? true).Gives c key c' ↔
      (key = none ∧ ∃ ws, IsBlanks ws ∧ c.Past ws c' ∧ c'.rest.head? = some 125) ∨
        ∃ name ws text, key = some name ∧ IsBlanks ws ∧ StringText text name ∧
          c.Past (ws ++ text) c' := by
  unfold nextKey?
  rw [gives_within, gives_blank_bind (by simp)]
  constructor
  · rintro ⟨ws, b, c₁, hws, hpast, hhead, -, h⟩
    dsimp only at h
    split at h
    · next hb =>
      obtain ⟨rfl, rfl⟩ := gives_pure.1 h
      exact .inl ⟨rfl, ws, hws, hpast, hb ▸ hhead⟩
    · rw [if_pos rfl] at h
      split at h
      · next hb =>
        obtain ⟨name, text, rfl, hname, htext⟩ := (gives_key (hb ▸ hhead)).1 h
        exact .inr ⟨name, ws, text, rfl, hws, hname, hpast.append htext⟩
      · simp at h
  · rintro (⟨rfl, ws, hws, hpast, hhead⟩ | ⟨name, ws, text, rfl, hws, hname, hpast⟩)
    · exact ⟨ws, 125, c', hws, hpast, hhead, by decide, by simp⟩
    · obtain ⟨c₁, hblanks, htext⟩ := Cursor.past_append_iff.1 hpast
      obtain ⟨contents, rfl, -⟩ := id hname
      have hhead := (Cursor.past_cons_iff.1 htext).1
      refine ⟨ws, 34, c₁, hws, hblanks, hhead, by decide, ?_⟩
      dsimp only
      rw [if_neg (by decide), if_pos rfl, if_pos rfl]
      exact (gives_key hhead).2 ⟨name, _, rfl, hname, htext⟩

/-- After a member, an object ends or goes on after a comma. -/
theorem gives_nextKey?_false {key : Option String} :
    (nextKey? false).Gives c key c' ↔
      (key = none ∧ ∃ ws, IsBlanks ws ∧ c.Past ws c' ∧ c'.rest.head? = some 125) ∨
        ∃ name ws ws' text, key = some name ∧ IsBlanks ws ∧ IsBlanks ws' ∧ StringText text name ∧
          c.Past (ws ++ 44 :: (ws' ++ text)) c' := by
  unfold nextKey?
  rw [gives_within, gives_blank_bind (by simp)]
  constructor
  · rintro ⟨ws, b, c₁, hws, hpast, hhead, -, h⟩
    dsimp only at h
    split at h
    · next hb =>
      obtain ⟨rfl, rfl⟩ := gives_pure.1 h
      exact .inl ⟨rfl, ws, hws, hpast, hb ▸ hhead⟩
    · rw [if_neg (by decide)] at h
      split at h
      · next hb =>
        subst hb
        rw [gives_advance_bind, gives_blank_bind (by simp)] at h
        obtain ⟨ws', b, c₂, hws', hpast', hhead', -, h⟩ := h
        dsimp only at h
        split at h
        · next hb =>
          obtain ⟨name, text, rfl, hname, htext⟩ := (gives_key (hb ▸ hhead')).1 h
          refine .inr ⟨name, ws, ws', text, rfl, hws, hws', hname, ?_⟩
          exact hpast.append (Cursor.past_cons_iff.2 ⟨hhead, hpast'.append htext⟩)
        · simp at h
      · simp at h
  · rintro (⟨rfl, ws, hws, hpast, hhead⟩ | ⟨name, ws, ws', text, rfl, hws, hws', hname, hpast⟩)
    · exact ⟨ws, 125, c', hws, hpast, hhead, by decide, by simp⟩
    · obtain ⟨c₁, hblanks, hmore⟩ := Cursor.past_append_iff.1 hpast
      obtain ⟨hcomma, hmore⟩ := Cursor.past_cons_iff.1 hmore
      obtain ⟨c₂, hblanks', htext⟩ := Cursor.past_append_iff.1 hmore
      obtain ⟨contents, rfl, -⟩ := id hname
      have hhead := (Cursor.past_cons_iff.1 htext).1
      refine ⟨ws, 44, c₁, hws, hblanks, hcomma, by decide, ?_⟩
      dsimp only
      rw [if_neg (by decide), if_neg (by decide), if_pos rfl, gives_advance_bind,
        gives_blank_bind (by simp)]
      exact ⟨ws', 34, c₂, hws', hblanks', hhead, by decide,
        (gives_key hhead).2 ⟨name, _, rfl, hname, htext⟩⟩

section

variable {Item : List UInt8 → Json → Prop} {item : Reader Json}

theorem gives_memberValue {name : String} {document : Json} (hitem : Reads item Item) :
    (memberValue name item).Gives c document c' ↔
      ∃ ws ws' text, IsBlanks ws ∧ IsBlanks ws' ∧ Item text document ∧
        c.Past (ws ++ 58 :: (ws' ++ text)) c' ∧ Stops text c'.rest := by
  unfold memberValue colon
  rw [gives_bind]
  constructor
  · rintro ⟨_, c₁, hcolon, h⟩
    obtain ⟨ws, b, c₂, hws, hpast, hhead, -, h'⟩ := (gives_blank_bind (by simp)).1 hcolon
    simp only [gives_ite, gives_advance, not_gives_failNext] at h'
    split at h'
    · next hb =>
      subst hb h'
      obtain ⟨ws', text, hws', htext, hpast', hstops⟩ := hitem.gives_iff.1 (gives_within.1 h)
      have hmore := Cursor.past_cons_iff.2 ⟨hhead, hpast'⟩
      exact ⟨ws, ws', text, hws, hws', htext, hpast.append hmore, hstops⟩
    · exact h'.elim
  · rintro ⟨ws, ws', text, hws, hws', htext, hpast, hstops⟩
    obtain ⟨c₁, hblanks, hmore⟩ := Cursor.past_append_iff.1 hpast
    obtain ⟨hcolon, hmore⟩ := Cursor.past_cons_iff.1 hmore
    refine ⟨(), c₁.next, (gives_blank_bind (by simp)).2 ?_, gives_within.2 (hitem.gives_iff.2 ?_)⟩
    · exact ⟨ws, 58, c₁, hws, hblanks, hcolon, by decide, by simp⟩
    · exact ⟨ws', text, hws', htext, hmore, hstops⟩

/-- The members read so far, latest first, and one more. -/
def addMember (item : Reader Json) (acc : List (String × Json)) (name : String) :
    Reader (List (String × Json)) := do
  return (name, ← memberValue name item) :: acc

/-- The rest of a member after its key, and the members after it, if the readings of those are
    known. -/
theorem gives_member_cons {fuel : Nat} {name : String} {acc out : List (String × Json)}
    (hitem : Reads item Item)
    (hrest : ∀ {c : Cursor} {acc out}, c.rest.length < fuel →
      ((members (addMember item) fuel false acc).Gives c out c' ↔
        ∃ text ms, Tail (MemberText Item) text ms ∧ c.Past text c' ∧ c'.rest.head? = some 125 ∧
          out = ms.reverse ++ acc))
    (hfuel : c.rest.length < fuel + 1) :
    (do let state ← addMember item acc name
        members (addMember item) fuel false state : Reader _).Gives c out c' ↔
      ∃ ws ws' part text document rest, IsBlanks ws ∧ IsBlanks ws' ∧ Item part document ∧
        Tail (MemberText Item) text rest ∧ out = rest.reverse ++ (name, document) :: acc ∧
        c.Past (ws ++ 58 :: (ws' ++ (part ++ text))) c' ∧ c'.rest.head? = some 125 := by
  unfold addMember
  rw [gives_bind]
  constructor
  · rintro ⟨state, c₁, hstate, h⟩
    obtain ⟨document, c₂, hvalue, hstate⟩ := gives_bind.1 hstate
    obtain ⟨rfl, rfl⟩ := gives_pure.1 hstate
    obtain ⟨ws, ws', part, hws, hws', hpart, hpast, -⟩ := (gives_memberValue hitem).1 hvalue
    obtain ⟨text, rest, htail, htext, hclose, rfl⟩ := (hrest (hpast.length_lt (by simp) hfuel)).1 h
    exact ⟨ws, ws', part, text, document, rest, hws, hws', hpart, htail, rfl,
      by simpa using hpast.append htext, hclose⟩
  · rintro ⟨ws, ws', part, text, document, rest, hws, hws', hpart, htail, rfl, hpast, hclose⟩
    rw [← List.append_assoc ws', ← List.cons_append, ← List.append_assoc ws] at hpast
    obtain ⟨c₁, hpast, htext⟩ := Cursor.past_append_iff.1 hpast
    have hstops := (htail.atDelimiter htext (by simp [Cursor.AtDelimiter, hclose])).stops part
    have hvalue : (memberValue name item).Gives c document c₁ :=
      (gives_memberValue hitem).2 ⟨ws, ws', part, hws, hws', hpart, hpast, hstops⟩
    refine ⟨(name, document) :: acc, c₁, ?_, ?_⟩
    · exact gives_bind.2 ⟨document, c₁, hvalue, gives_pure.2 ⟨rfl, rfl⟩⟩
    · exact (hrest (hpast.length_lt (by simp) hfuel)).2 ⟨text, rest, htail, htext, hclose, rfl⟩

/-- After a member, an object is read up to its end. -/
theorem gives_members_false {fuel : Nat} {acc out : List (String × Json)} (hitem : Reads item Item)
    (hfuel : c.rest.length < fuel) :
    (members (addMember item) fuel false acc).Gives c out c' ↔
      ∃ text ms, Tail (MemberText Item) text ms ∧ c.Past text c' ∧ c'.rest.head? = some 125 ∧
        out = ms.reverse ++ acc := by
  induction fuel generalizing c acc out with
  | zero => exact absurd hfuel (Nat.not_lt_zero _)
  | succ fuel ih =>
    unfold members
    rw [gives_bind]
    constructor
    · rintro ⟨key, c₁, hkey, h⟩
      rcases gives_nextKey?_false.1 hkey with
        ⟨rfl, ws, hws, hpast, hclose⟩ | ⟨name, ws, ws', text, rfl, hws, hws', hname, hpast⟩
      · obtain ⟨rfl, rfl⟩ := gives_pure.1 h
        exact ⟨ws, [], .done hws, hpast, hclose, rfl⟩
      · have hfuel' := Nat.lt_of_le_of_lt hpast.length_le hfuel
        obtain ⟨before, after, part, text, document, rest, hbefore, hafter, hpart, htail, rfl,
          hpast', hclose⟩ := (gives_member_cons hitem (fun h => ih h) hfuel').1 h
        refine ⟨_, _, .more hws hws' (.mk hname hbefore hafter hpart) htail, ?_, hclose, by simp⟩
        simpa using hpast.append hpast'
    · rintro ⟨text, ms, htail, hpast, hclose, rfl⟩
      cases htail with
      | done hws =>
        exact ⟨none, c', gives_nextKey?_false.2 (.inl ⟨rfl, _, hws, hpast, hclose⟩),
          gives_pure.2 ⟨rfl, rfl⟩⟩
      | @more ws ws' part text m rest hws hws' hpart htail =>
        cases hpart with
        | @mk key before after part name document hname hbefore hafter hpart =>
          replace hpast : c.Past ((ws ++ 44 :: (ws' ++ key)) ++
              (before ++ 58 :: (after ++ (part ++ text)))) c' := by simpa using hpast
          obtain ⟨c₁, hkey, hpast⟩ := Cursor.past_append_iff.1 hpast
          have hfuel' := Nat.lt_of_le_of_lt hkey.length_le hfuel
          refine ⟨some name, c₁,
            gives_nextKey?_false.2 (.inr ⟨name, ws, ws', key, rfl, hws, hws', hname, hkey⟩), ?_⟩
          exact (gives_member_cons hitem (fun h => ih h) hfuel').2
            ⟨before, after, part, text, document, rest, hbefore, hafter, hpart, htail, by simp,
              hpast, hclose⟩

theorem gives_members {out : List (String × Json)} (hitem : Reads item Item) :
    (members (addMember item) (c.rest.length + 1) true []).Gives c out c' ↔
      ∃ text ms, Row (MemberText Item) text ms ∧ c.Past text c' ∧ c'.rest.head? = some 125 ∧
        out = ms.reverse := by
  unfold members
  rw [gives_bind]
  constructor
  · rintro ⟨key, c₁, hkey, h⟩
    rcases gives_nextKey?_true.1 hkey with
      ⟨rfl, ws, hws, hpast, hclose⟩ | ⟨name, ws, text, rfl, hws, hname, hpast⟩
    · obtain ⟨rfl, rfl⟩ := gives_pure.1 h
      exact ⟨ws, [], .none hws, hpast, hclose, rfl⟩
    · obtain ⟨before, after, part, text, document, rest, hbefore, hafter, hpart, htail, rfl, hpast',
        hclose⟩ := (gives_member_cons hitem (gives_members_false hitem)
          (Nat.lt_succ_of_le hpast.length_le)).1 h
      refine ⟨_, _, .some hws (.mk hname hbefore hafter hpart) htail, ?_, hclose, by simp⟩
      simpa using hpast.append hpast'
  · rintro ⟨text, ms, hrow, hpast, hclose, rfl⟩
    cases hrow with
    | none hws =>
      exact ⟨none, c', gives_nextKey?_true.2 (.inl ⟨rfl, _, hws, hpast, hclose⟩),
        gives_pure.2 ⟨rfl, rfl⟩⟩
    | @some ws part text m rest hws hpart htail =>
      cases hpart with
      | @mk key before after part name document hname hbefore hafter hpart =>
        replace hpast : c.Past ((ws ++ key) ++ (before ++ 58 :: (after ++ (part ++ text)))) c' := by
          simpa using hpast
        obtain ⟨c₁, hkey, hpast⟩ := Cursor.past_append_iff.1 hpast
        refine ⟨some name, c₁,
          gives_nextKey?_true.2 (.inr ⟨name, ws, key, rfl, hws, hname, hkey⟩), ?_⟩
        exact (gives_member_cons hitem (gives_members_false hitem)
          (Nat.lt_succ_of_le hkey.length_le)).2
          ⟨before, after, part, text, document, rest, hbefore, hafter, hpart, htail, by simp, hpast,
            hclose⟩

theorem compoundText_object_iff {text : List UInt8} {document : Json} :
    CompoundText Item (123 :: text) document ↔
      ∃ row ms, Row (MemberText Item) row ms ∧ document = .obj ms ∧ text = row ++ [125] := by
  constructor
  · intro h
    cases h with
    | object hrow => exact ⟨_, _, hrow, rfl, rfl⟩
  · rintro ⟨row, ms, hrow, rfl, rfl⟩
    exact .object hrow

/-- An object after its opening bracket. -/
theorem gives_object {document : Json} (hitem : Reads item Item) :
    (do let fuel ← remaining
        closedBy closeObject do
          let ms ← members (fun (acc : List (String × Json)) key => do
            return (key, ← memberValue key item) :: acc) (fuel + 1) true []
          return .obj ms.reverse : Reader Json).Gives c document c' ↔
      ∃ text, CompoundText Item (123 :: text) document ∧ c.Past text c' := by
  have close {c : Cursor} (hclose : c.rest.head? = some 125) :
      closeObject.Gives c () c' ↔ c.Past [125] c' := by
    unfold closeObject
    rw [(gives_blank_of_head hclose (by decide)).bind_iff]
    simp [hclose]
  change (remaining >>= fun fuel => closedBy closeObject
    (members (addMember item) (fuel + 1) true [] >>= fun ms => pure (.obj ms.reverse))).Gives
      c document c' ↔ _
  rw [gives_remaining_bind, gives_closedBy]
  simp only [gives_bind, gives_members hitem, gives_pure]
  constructor
  · rintro ⟨c₁, ⟨_, c₂, ⟨row, ms, hrow, hpast, hhead, rfl⟩, rfl, rfl⟩, hclose⟩
    rw [List.reverse_reverse]
    exact ⟨_, .object hrow, hpast.append ((close hhead).1 hclose)⟩
  · rintro ⟨text, htext, hpast⟩
    obtain ⟨row, ms, hrow, rfl, rfl⟩ := compoundText_object_iff.1 htext
    obtain ⟨c₁, hpast, hclose⟩ := Cursor.past_append_iff.1 hpast
    have hhead := (Cursor.past_cons_iff.1 hclose).1
    exact ⟨c₁, ⟨_, c₁, ⟨row, ms, hrow, hpast, hhead, rfl⟩, by rw [List.reverse_reverse], rfl⟩,
      (close hhead).2 hclose⟩

end

end Conform.Json.Reader
