import Conform.Json.Token

/-!
# Laws of readers

What a reader takes off the front of a text when it succeeds. The laws are equivalences, so that one
statement about a reader says both what it accepts and what it has accepted; later modules reason
with them and leave the definitions closed.

## Main definitions

- `Json.Cursor.Past` — a cursor moved past a text
- `Json.Reader.Gives` — a reader succeeds, with a result, and leaves a cursor
- `Json.IsBlanks` — a text of blanks

## Main results

- `Json.Cursor.past_append_iff` — a text is passed part by part
- `Json.Reader.gives_bind` — how a sequence succeeds
- `Json.Reader.gives_blank_bind`, `Json.Reader.gives_next_bind` — a reader that starts with a byte
-/

namespace Conform.Json

-- ════════════════════════════════════════════════════════════════════════
-- Moving past a text
-- ════════════════════════════════════════════════════════════════════════

/-- The cursor `c'` is the cursor `c` moved past a text. -/
structure Cursor.Past (c : Cursor) (text : List UInt8) (c' : Cursor) : Prop where
  rest : c.rest = text ++ c'.rest
  position : c'.position = text.foldl Position.past c.position

namespace Cursor

@[simp] theorem past_nil_iff {c c' : Cursor} : c.Past [] c' ↔ c' = c := by
  constructor
  · rintro ⟨hrest, hposition⟩
    cases c
    cases c'
    simp_all
  · rintro rfl
    exact ⟨rfl, rfl⟩

@[simp] theorem past_cons_iff {c c' : Cursor} {b : UInt8} {text : List UInt8} :
    c.Past (b :: text) c' ↔ c.rest.head? = some b ∧ c.next.Past text c' := by
  obtain ⟨rest, p⟩ := c
  cases rest with
  | nil => simpa using fun h : Past _ _ _ => nomatch h.rest
  | cons a rest =>
    constructor
    · rintro ⟨hrest, hposition⟩
      obtain ⟨rfl, rfl⟩ := List.cons.inj hrest
      exact ⟨rfl, rfl, hposition⟩
    · rintro ⟨ha, hrest, hposition⟩
      obtain rfl : a = b := by simpa using ha
      exact ⟨congrArg (a :: ·) hrest, hposition⟩

/-- A text is passed part by part. -/
theorem past_append_iff {c c' : Cursor} {s t : List UInt8} :
    c.Past (s ++ t) c' ↔ ∃ c₁, c.Past s c₁ ∧ c₁.Past t c' := by
  induction s generalizing c with
  | nil => simp
  | cons b s ih => simp [ih, and_assoc]

theorem Past.append {c c₁ c' : Cursor} {s t : List UInt8} (hs : c.Past s c₁) (ht : c₁.Past t c') :
    c.Past (s ++ t) c' :=
  past_append_iff.2 ⟨c₁, hs, ht⟩

theorem past_cons_split_iff {c c' : Cursor} {b : UInt8} {text : List UInt8} :
    c.Past (b :: text) c' ↔ ∃ c₁, c.Past [b] c₁ ∧ c₁.Past text c' :=
  past_append_iff (s := [b])

/-- From the same place the same text leads to the same cursor. -/
theorem Past.unique {c c₁ c₂ : Cursor} {text : List UInt8} (h₁ : c.Past text c₁)
    (h₂ : c.Past text c₂) : c₁ = c₂ := by
  obtain ⟨r₁, p₁⟩ := c₁
  obtain ⟨r₂, p₂⟩ := c₂
  obtain rfl : r₁ = r₂ := List.append_cancel_left (h₁.rest.symm.trans h₂.rest)
  obtain rfl : p₁ = p₂ := h₁.position.trans h₂.position.symm
  rfl

theorem Past.length_eq {c c' : Cursor} {text : List UInt8} (h : c.Past text c') :
    c.rest.length = text.length + c'.rest.length := by
  rw [h.rest, List.length_append]

theorem Past.length_le {c c' : Cursor} {text : List UInt8} (h : c.Past text c') :
    c'.rest.length ≤ c.rest.length := by
  rw [h.length_eq]
  exact Nat.le_add_left _ _

/-- What bounded the bytes before a text was passed bounds those after it, with one to spare. -/
theorem Past.length_lt {c c' : Cursor} {text : List UInt8} {n : Nat} (h : c.Past text c')
    (hne : text ≠ []) (hn : c.rest.length < n + 1) : c'.rest.length < n := by
  have := h.length_eq
  have := List.length_pos_iff.2 hne
  omega

theorem Past.next_eq {c c' : Cursor} {b : UInt8} (h : c.Past [b] c') : c.next = c' := by
  simpa [eq_comm] using (past_cons_iff.1 h).2

theorem exists_past {c : Cursor} {text rest : List UInt8} (h : c.rest = text ++ rest) :
    ∃ c', c.Past text c' ∧ c'.rest = rest :=
  ⟨⟨rest, text.foldl Position.past c.position⟩, ⟨h, rfl⟩, rfl⟩

theorem rest_next (c : Cursor) : c.next.rest = c.rest.tail := by
  unfold next
  split <;> simp_all

end Cursor

-- ════════════════════════════════════════════════════════════════════════
-- Success
-- ════════════════════════════════════════════════════════════════════════

namespace Reader

variable {α β : Type} {c c' : Cursor}

/-- From the cursor `c` the reader succeeds with `a` and leaves the cursor `c'`. -/
def Gives (x : Reader α) (c : Cursor) (a : α) (c' : Cursor) : Prop := x c = (.ok a, c')

theorem Gives.unique {x : Reader α} {a b : α} {c₁ c₂ : Cursor} (ha : x.Gives c a c₁)
    (hb : x.Gives c b c₂) : a = b ∧ c₁ = c₂ := by
  simpa using Prod.mk.inj (ha.symm.trans hb)

theorem run_eq_ok_iff {x : Reader α} {bytes : List UInt8} {a : α} :
    run x bytes = .ok a ↔ ∃ c', x.Gives (Cursor.start bytes) a c' := by
  unfold run Gives
  split
  · next b c₁ h => simp [h]
  · next e c₁ h => simp [h]

@[simp] theorem gives_pure {a b : α} : (pure a : Reader α).Gives c b c' ↔ b = a ∧ c' = c := by
  constructor
  · rintro ⟨⟩
    exact ⟨rfl, rfl⟩
  · rintro ⟨rfl, rfl⟩
    rfl

/-- A sequence succeeds if its first part does and the rest does from there. -/
theorem gives_bind {x : Reader α} {f : α → Reader β} {b : β} :
    (x >>= f).Gives c b c' ↔ ∃ a c₁, x.Gives c a c₁ ∧ (f a).Gives c₁ b c' := by
  change bind x f c = _ ↔ _
  unfold bind Gives
  split
  · next a c₁ h => simp [h, and_assoc]
  · next e c₁ h => simp [h]

/-- After a success the rest goes on from where it ended. -/
theorem Gives.bind_iff {x : Reader α} {f : α → Reader β} {a : α} {b : β} {c₁ : Cursor}
    (h : x.Gives c a c₁) : (x >>= f).Gives c b c' ↔ (f a).Gives c₁ b c' := by
  rw [gives_bind]
  constructor
  · rintro ⟨a', c₂, h', hf⟩
    obtain ⟨rfl, rfl⟩ := h.unique h'
    exact hf
  · exact fun hf => ⟨a, c₁, h, hf⟩

@[simp] theorem not_gives_fail {complaint : Complaint} {a : α} :
    ¬ (fail complaint : Reader α).Gives c a c' := nofun

@[simp] theorem not_gives_failNext {complaint : Complaint} {a : α} :
    ¬ (failNext complaint : Reader α).Gives c a c' := nofun

@[simp] theorem not_gives_failAt {p : Position} {complaint : Complaint} {a : α} :
    ¬ (failAt p complaint : Reader α).Gives c a c' := nofun

@[simp] theorem gives_peek_bind {f : Option UInt8 → Reader α} {a : α} :
    (peek >>= f).Gives c a c' ↔ (f c.rest.head?).Gives c a c' := Iff.rfl

@[simp] theorem gives_remaining_bind {f : Nat → Reader α} {a : α} :
    (remaining >>= f).Gives c a c' ↔ (f c.rest.length).Gives c a c' := Iff.rfl

@[simp] theorem gives_advance_bind {f : Unit → Reader α} {a : α} :
    (advance >>= f).Gives c a c' ↔ (f ()).Gives c.next a c' := Iff.rfl

@[simp] theorem gives_advance {u : Unit} : advance.Gives c u c' ↔ c' = c.next := by
  constructor
  · rintro ⟨⟩
    rfl
  · rintro rfl
    rfl

@[simp] theorem gives_ite {p : Prop} [Decidable p] {x y : Reader α} {a : α} :
    (if p then x else y).Gives c a c' ↔ if p then x.Gives c a c' else y.Gives c a c' := by
  split <;> rfl

/-- Locating the issues of a reader leaves its successes as they are. -/
@[simp] theorem gives_within {segment : Segment} {x : Reader α} {a : α} :
    (within segment x).Gives c a c' ↔ x.Gives c a c' := by
  simp only [within, Gives]
  split
  · next b c₁ h => simp [h]
  · next e c₁ h => simp [h]

@[simp] theorem gives_closedBy {close : Reader Unit} {body : Reader α} {a : α} :
    (closedBy close body).Gives c a c' ↔ ∃ c₁, body.Gives c a c₁ ∧ close.Gives c₁ () c' := by
  simp only [closedBy, Gives]
  split
  · next b c₁ hbody =>
    change (close >>= fun _ => pure b).Gives c₁ a c' ↔ _
    simp only [gives_bind, gives_pure]
    constructor
    · rintro ⟨⟨⟩, c₂, hclose, rfl, rfl⟩
      exact ⟨c₁, hbody, hclose⟩
    · rintro ⟨c₂, hb, hclose⟩
      obtain ⟨rfl, rfl⟩ := Gives.unique hbody hb
      exact ⟨(), c', hclose, rfl, rfl⟩
  · next e c₁ hbody => simp [hbody]

theorem gives_next_of_past {b : UInt8} (h : c.Past [b] c') : next.Gives c (some b) c' := by
  change (Except.ok c.rest.head?, c.next) = _
  rw [(Cursor.past_cons_iff.1 h).1, h.next_eq]

/-- A reader that cannot do without a next byte takes one and goes on with it. -/
theorem gives_next_bind {f : Option UInt8 → Reader α} {a : α}
    (hnone : ∀ c c', ¬ (f none).Gives c a c') :
    (next >>= f).Gives c a c' ↔ ∃ b c₁, c.Past [b] c₁ ∧ (f (some b)).Gives c₁ a c' := by
  change (f c.rest.head?).Gives c.next a c' ↔ _
  cases h : c.rest.head? with
  | none => simp [h, hnone]
  | some b => simp [h, and_assoc]

end Reader

-- ════════════════════════════════════════════════════════════════════════
-- Blanks
-- ════════════════════════════════════════════════════════════════════════

/-- Texts of blanks only. -/
def IsBlanks (ws : List UInt8) : Prop := ∀ b ∈ ws, Reader.isBlank b = true

def Cursor.AtToken (c : Cursor) : Prop := ∀ b ∈ c.rest.head?, Reader.isBlank b = false

namespace Reader

variable {α : Type} {c c' : Cursor}

theorem blank.skip_eq_iff :
    blank.skip c = c' ↔ (∃ ws, IsBlanks ws ∧ c.Past ws c') ∧ c'.AtToken := by
  obtain ⟨rest, p⟩ := c
  unfold blank.skip
  induction rest generalizing p with
  | nil =>
    constructor
    · rintro rfl
      exact ⟨⟨[], nofun, Cursor.past_nil_iff.2 rfl⟩, nofun⟩
    · rintro ⟨⟨ws, -, hpast⟩, -⟩
      cases ws with
      | nil => exact (Cursor.past_nil_iff.1 hpast).symm
      | cons b ws => cases hpast.rest
  | cons b rest ih =>
    unfold blank.go
    by_cases hb : isBlank b = true
    · rw [if_pos hb]
      refine (ih (p.past b)).trans (and_congr_left fun htoken => ?_)
      constructor
      · rintro ⟨ws, hws, hpast⟩
        exact ⟨b :: ws, List.forall_mem_cons.2 ⟨hb, hws⟩, Cursor.past_cons_iff.2 ⟨rfl, hpast⟩⟩
      · rintro ⟨ws, hws, hpast⟩
        cases ws with
        | nil =>
          obtain rfl := Cursor.past_nil_iff.1 hpast
          exact absurd (htoken b rfl) (by simp [hb])
        | cons a ws =>
          exact ⟨ws, (List.forall_mem_cons.1 hws).2, (Cursor.past_cons_iff.1 hpast).2⟩
    · rw [if_neg hb]
      constructor
      · rintro rfl
        refine ⟨⟨[], nofun, Cursor.past_nil_iff.2 rfl⟩, ?_⟩
        rintro a ⟨⟩
        simpa using hb
      · rintro ⟨⟨ws, hws, hpast⟩, -⟩
        cases ws with
        | nil => exact (Cursor.past_nil_iff.1 hpast).symm
        | cons a ws =>
          obtain rfl : b = a := by simpa using (Cursor.past_cons_iff.1 hpast).1
          exact absurd (hws b List.mem_cons_self) hb

/-- The blanks are passed up to where they end. -/
theorem gives_blank {b : Option UInt8} :
    blank.Gives c b c' ↔
      (∃ ws, IsBlanks ws ∧ c.Past ws c') ∧ c'.AtToken ∧ b = c'.rest.head? := by
  rw [← and_assoc, ← blank.skip_eq_iff]
  constructor
  · rintro ⟨⟩
    exact ⟨rfl, rfl⟩
  · rintro ⟨rfl, rfl⟩
    rfl

theorem gives_blank_of_head {b : UInt8} (hb : c.rest.head? = some b) (htoken : isBlank b = false) :
    blank.Gives c (some b) c :=
  gives_blank.2 ⟨⟨[], nofun, Cursor.past_nil_iff.2 rfl⟩, by simpa [Cursor.AtToken, hb], hb.symm⟩

/-- A reader that cannot do without a next byte passes the blanks before it and looks at it. -/
theorem gives_blank_bind {f : Option UInt8 → Reader α} {a : α}
    (hnone : ∀ c c', ¬ (f none).Gives c a c') :
    (blank >>= f).Gives c a c' ↔
      ∃ ws b c₁, IsBlanks ws ∧ c.Past ws c₁ ∧ c₁.rest.head? = some b ∧ isBlank b = false ∧
        (f (some b)).Gives c₁ a c' := by
  constructor
  · intro h
    obtain ⟨o, c₁, hblank, hf⟩ := gives_bind.1 h
    obtain ⟨⟨ws, hws, hpast⟩, htoken, rfl⟩ := gives_blank.1 hblank
    cases hb : c₁.rest.head? with
    | none => exact absurd (hb ▸ hf) (hnone _ _)
    | some b => exact ⟨ws, b, c₁, hws, hpast, hb, htoken b hb, hb ▸ hf⟩
  · rintro ⟨ws, b, c₁, hws, hpast, hb, htoken, hf⟩
    refine gives_bind.2 ⟨some b, c₁, gives_blank.2 ⟨⟨ws, hws, hpast⟩, ?_, hb.symm⟩, hf⟩
    intro d hd
    obtain rfl : b = d := by simpa [hb] using hd
    exact htoken

end Reader

end Conform.Json
