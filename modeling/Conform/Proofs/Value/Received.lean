import Conform.Proofs.Evaluation.SideBySide
import Conform.Proofs.Numeral
import Conform.Proofs.Text.Quoted
import Conform.Proofs.Text.Runs
import Conform.Value.Received

/-!
# Reading received values back

The text of a value starts with the name of its kind, a run of letters that ends where the detail
of the value is written. So it tells the kind, whatever text stands in the detail, and the detail
tells truth values, big integers and strings apart. The text of an array names the kind that its
items share and knows nothing of their order.

## Main definitions

- `Value.detail` — what is written after the name of the kind

## Main results

- `Value.kind_eq_of_received_eq` — the text tells the kind
- `Value.eq_of_received_eq` — and the value itself, if it is a truth value, an integer or a string
- `Value.itemsText_eq_name_iff` — when the text of an array names a kind
- `Value.received_never_confuses` — all of this
-/

namespace Conform

namespace Kind

theorem name_injective {k l : Kind} (h : k.name = l.name) : k = l := by
  cases k <;> cases l <;> simp [name] at h ⊢

theorem isAlpha_of_mem_name (k : Kind) : ∀ c ∈ k.name.toList, c.isAlpha = true := by
  rw [← List.all_eq_true]
  cases k <;> rfl

theorem name_ne_dots (k : Kind) : k.name ≠ "..." := by
  cases k <;> decide

end Kind

namespace Value

variable {v w : Value} {items items' : List Value}

/-- What is written after the name of the kind. -/
def detail : Value → String
  | undefined | null | object _ => ""
  | bool b => "(" ++ (if b then "true" else "false") ++ ")"
  | number n => "(" ++ n.text ++ ")"
  | bigint n => "(" ++ toString n ++ "n)"
  | string s => "(" ++ Quoted.quote s ++ ")"
  | symbol s => "(" ++ s.label ++ ")"
  | array items => "<" ++ itemsText items ++ ">"
  | function _ _ => "(...)"

theorem received_eq_append (v : Value) : v.received = v.kind.name ++ v.detail := by
  cases v <;> simp only [received, kind, Kind.name, detail, ← String.append_assoc] <;> rfl

theorem ends_detail (v : Value) : Run.Ends Char.isAlpha v.detail.toList := by
  cases v <;> simp only [detail, String.toList_append]
  case undefined | null | object => exact Run.ends_nil
  case array => exact Run.ends_cons (by decide)
  all_goals exact Run.ends_cons (by decide)

theorem name_and_detail_of_received_eq (h : v.received = w.received) :
    v.kind = w.kind ∧ v.detail = w.detail := by
  rw [received_eq_append, received_eq_append, ← String.toList_inj, String.toList_append,
    String.toList_append] at h
  obtain ⟨hname, hdetail⟩ := Run.append_inj v.kind.isAlpha_of_mem_name w.kind.isAlpha_of_mem_name
    v.ends_detail w.ends_detail h
  exact ⟨Kind.name_injective (String.toList_inj.mp hname), String.toList_inj.mp hdetail⟩

theorem kind_eq_of_received_eq (h : v.received = w.received) : v.kind = w.kind :=
  (name_and_detail_of_received_eq h).1

theorem eq_of_detail_eq (hkind : v.kind = w.kind) (hdetail : v.detail = w.detail)
    (h : v.kind = .boolean ∨ v.kind = .bigint ∨ v.kind = .string) : v = w := by
  cases v with
  | bool a =>
    cases w with
    | bool b => cases a <;> cases b <;> first | rfl | exact absurd hdetail (by decide)
    | _ => cases hkind
  | bigint m =>
    cases w with
    | bigint n =>
      have htext : toString m = toString n := by
        simpa only [detail, String.append_left_inj, String.append_right_inj] using hdetail
      rw [Numeral.toString_int_injective htext]
    | _ => cases hkind
  | string s =>
    cases w with
    | string t =>
      have htext : Quoted.quote s = Quoted.quote t := by
        simpa only [detail, String.append_left_inj, String.append_right_inj] using hdetail
      have hrest : (Quoted.quote s).toList ++ [] = (Quoted.quote t).toList ++ [] := by rw [htext]
      rw [(Quoted.quote_append_inj hrest).1]
    | _ => cases hkind
  | _ => rcases h with h | h | h <;> cases h

/-- Truth values, big integers and strings are told by their texts. -/
theorem eq_of_received_eq (h : v.received = w.received)
    (hkind : v.kind = .boolean ∨ v.kind = .bigint ∨ v.kind = .string) : v = w := by
  obtain ⟨hsame, hdetail⟩ := name_and_detail_of_received_eq h
  exact eq_of_detail_eq hsame hdetail hkind

-- ════════════════════════════════════════════════════════════════════════
-- Items
-- ════════════════════════════════════════════════════════════════════════

theorem commonKind?_eq_some_iff {k : Kind} :
    commonKind? items = some k ↔ items ≠ [] ∧ ∀ x ∈ items, x.kind = k := by
  cases items with
  | nil => simp [commonKind?]
  | cons x xs =>
    rw [commonKind?, Option.ite_none_right_eq_some, Option.some.injEq, List.all_eq_true,
      List.forall_mem_cons]
    simp only [beq_iff_eq]
    constructor
    · rintro ⟨hxs, rfl⟩
      exact ⟨List.cons_ne_nil _ _, rfl, hxs⟩
    · rintro ⟨-, rfl, hxs⟩
      exact ⟨hxs, rfl⟩

theorem commonKind?_perm (h : items.Perm items') : commonKind? items = commonKind? items' := by
  ext k
  simp only [commonKind?_eq_some_iff, h.mem_iff, ne_eq, ← List.length_eq_zero_iff, h.length_eq]

theorem itemsText_of_ne_nil (hne : items ≠ []) :
    itemsText items = if items.length > kindScanLimit then "..." else
      match commonKind? items with
      | some k => k.name
      | none => "..." := by
  obtain ⟨x, xs, rfl⟩ := List.exists_cons_of_ne_nil hne
  rfl

theorem itemsText_perm (h : items.Perm items') : itemsText items = itemsText items' := by
  by_cases hne : items = []
  · subst hne
    rw [h.nil_eq]
  · have hne' : items' ≠ [] := by
      rintro rfl
      exact hne h.eq_nil
    rw [itemsText_of_ne_nil hne, itemsText_of_ne_nil hne', h.length_eq, commonKind?_perm h]

/-- The kind that stands between the brackets is that of all items. -/
theorem itemsText_eq_name_iff (hne : items ≠ []) (hlimit : items.length ≤ kindScanLimit)
    (k : Kind) : itemsText items = k.name ↔ ∀ x ∈ items, x.kind = k := by
  rw [itemsText_of_ne_nil hne, if_neg (Nat.not_lt.mpr hlimit)]
  have hcommon := @commonKind?_eq_some_iff items k
  simp only [hne, ne_eq, not_false_eq_true, true_and] at hcommon
  rw [← hcommon]
  cases commonKind? items with
  | none => exact iff_of_false (fun h => k.name_ne_dots h.symm) nofun
  | some l => rw [Option.some.injEq]; exact ⟨Kind.name_injective, congrArg Kind.name⟩

/-- The text of a value never confuses values. Values with the same text are of one kind, so that
    every base kind takes both or neither, whatever their strings, descriptions and digits look
    like; if the first is a truth value, a big integer or a string, they are the same value. The
    text of an array of up to 1024 items names a kind if and only if all items are of that kind,
    and the text of an array of any length is the same in every order of the items. -/
theorem received_never_confuses :
    (∀ v w : Value, v.received = w.received →
      v.kind.name = w.kind.name ∧ ∀ p : Primitive, p.test v = p.test w) ∧
    (∀ v w : Value, v.received = w.received →
      v.kind = .boolean ∨ v.kind = .bigint ∨ v.kind = .string → v = w) ∧
    (∀ items : List Value, items ≠ [] → items.length ≤ 1024 → ∀ k : Kind,
      (array items).received = "array<" ++ k.name ++ ">" ↔ ∀ x ∈ items, x.kind = k) ∧
    ∀ items items' : List Value, items.Perm items' →
      (array items).received = (array items').received := by
  refine ⟨?_, fun v w => eq_of_received_eq, ?_, ?_⟩
  · intro v w h
    have hkind := kind_eq_of_received_eq h
    exact ⟨congrArg Kind.name hkind, Primitive.test_congr hkind⟩
  · intro items hne hlimit k
    rw [received, String.append_left_inj, String.append_right_inj]
    exact itemsText_eq_name_iff hne hlimit k
  · intro items items' h
    rw [received, received, itemsText_perm h]

/-- A symbol whose description looks like the end of a symbol and a string. -/
def lookalike (stamp : Nat) : Value := .symbol ⟨stamp, some "x) string(\"y\""⟩

theorem received_never_confuses_lookalikes :
    (lookalike 0).received = (lookalike 1).received ∧
    (∀ p : Primitive, p.test (lookalike 0) = p.test (lookalike 1)) ∧
    (bigint 7).received ≠ (bigint (-7)).received ∧
    (array [lookalike 0, lookalike 1]).received = "array<" ++ Kind.symbol.name ++ ">" ∧
    (array [lookalike 0, null]).received = (array [null, lookalike 0]).received := by
  obtain ⟨hkinds, hvalues, hitems, horder⟩ := received_never_confuses
  have hlookalikes : (lookalike 0).received = (lookalike 1).received := rfl
  refine ⟨hlookalikes, (hkinds _ _ hlookalikes).2, ?_, ?_, ?_⟩
  · intro h
    cases hvalues _ _ h (.inr (.inl rfl))
  · exact (hitems [lookalike 0, lookalike 1] (by simp) (by simp) .symbol).mpr
      (by simp [lookalike, kind])
  · exact horder _ _ (.swap _ _ _)

end Value

end Conform
