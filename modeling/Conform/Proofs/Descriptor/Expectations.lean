import Conform.Proofs.Evaluation.Meaning
import Conform.Proofs.Text.Rows
import Conform.Proofs.Text.Runs

/-!
# Reading expectations back

The text of a union or an intersection has no parentheses. It is still readable one way only, as
long as no union stands directly in an intersection: a text is a row of alternatives with bars
between them, an alternative is a row of base kinds and arrays, and brackets tell where the item of
an array ends. What is lost is how rows are nested in rows of the same kind, on which the meaning
does not depend.

## Main definitions

- `Descriptor.Legible` — base kinds, arrays and combinators without a union in an intersection
- `Descriptor.alternatives` — the row of rows that the text shows
- `Descriptor.SameMeaning` — two descriptors demand the same

## Main results

- `Descriptor.Legible.render_eq` — the text shows the alternatives
- `Descriptor.Legible.conforms_iff` — the alternatives are the meaning
- `Descriptor.Legible.told` — legible descriptors with one text have one meaning
- `Validator.expectations_readable_one_way` — and so get one verdict
-/

namespace Conform

namespace Descriptor

/-- Base kinds, arrays, unions and intersections of at least one member, in which no union is a
    member of an intersection. -/
inductive Legible : Descriptor → Prop
  | primitive (p : Primitive) : Legible (.primitive p)
  | arrayOf {item : Descriptor} (h : Legible item) : Legible (.arrayOf item)
  | union {members : List Descriptor} (hne : members ≠ [])
      (h : ∀ member ∈ members, Legible member) : Legible (.union members)
  | intersection {members : List Descriptor} (hne : members ≠ [])
      (h : ∀ member ∈ members, Legible member)
      (hflat : ∀ member ∈ members, ∀ inner, member ≠ .union inner) :
      Legible (.intersection members)

@[simp] theorem legible_primitive (p : Primitive) : Legible (.primitive p) := .primitive p

@[simp] theorem legible_arrayOf {item : Descriptor} : Legible (.arrayOf item) ↔ Legible item :=
  ⟨fun | .arrayOf h => h, .arrayOf⟩

@[simp] theorem legible_union {members : List Descriptor} :
    Legible (.union members) ↔ members ≠ [] ∧ ∀ member ∈ members, Legible member :=
  ⟨fun | .union hne h => ⟨hne, h⟩, fun ⟨hne, h⟩ => .union hne h⟩

@[simp] theorem legible_intersection {members : List Descriptor} :
    Legible (.intersection members) ↔ members ≠ [] ∧ (∀ member ∈ members, Legible member) ∧
      ∀ member ∈ members, ∀ inner, member ≠ .union inner :=
  ⟨fun | .intersection hne h hflat => ⟨hne, h, hflat⟩,
    fun ⟨hne, h, hflat⟩ => .intersection hne h hflat⟩

mutual

/-- What stands between the bars in the text, and there between the ampersands. -/
def alternatives : Descriptor → List (List Descriptor)
  | union members => (alternativesOfAll members).flatten
  | intersection members => [(alternativesOfAll members).flatten.flatten]
  | d => [[d]]

/-- The alternatives of several descriptors. -/
def alternativesOfAll : List Descriptor → List (List (List Descriptor))
  | [] => []
  | d :: ds => alternatives d :: alternativesOfAll ds

end

/-- Everything that is written outside of brackets but bars and ampersands. -/
def terms (d : Descriptor) : List Descriptor := d.alternatives.flatten

/-- What has no bar and no ampersand outside of brackets. -/
inductive IsTerm : Descriptor → Prop
  | primitive (p : Primitive) : IsTerm (.primitive p)
  | arrayOf {item : Descriptor} (h : Legible item) : IsTerm (.arrayOf item)

/-- Two descriptors demand the same of every value, whatever the guards say. -/
def SameMeaning (d e : Descriptor) : Prop :=
  ∀ verdict v, Conforms verdict v d ↔ Conforms verdict v e

variable {d : Descriptor} {members : List Descriptor}

-- ════════════════════════════════════════════════════════════════════════
-- Alternatives
-- ════════════════════════════════════════════════════════════════════════

theorem alternativesOfAll_eq_map (ds : List Descriptor) :
    alternativesOfAll ds = ds.map alternatives := by
  induction ds with
  | nil => rfl
  | cons d ds ih => rw [alternativesOfAll, ih, List.map_cons]

theorem renderAll_eq_map (ds : List Descriptor) : renderAll ds = ds.map render := by
  induction ds with
  | nil => rfl
  | cons d ds ih => rw [renderAll, ih, List.map_cons]

theorem alternatives_union : (union members).alternatives = members.flatMap alternatives := by
  rw [alternatives, alternativesOfAll_eq_map, List.flatMap_def]

theorem alternatives_intersection :
    (intersection members).alternatives = [members.flatMap terms] := by
  rw [alternatives, alternativesOfAll_eq_map, List.flatten_flatten, List.map_map,
    List.flatMap_def]
  rfl

/-- What is no union has one alternative. -/
theorem alternatives_eq_singleton (h : ∀ inner, d ≠ .union inner) :
    d.alternatives = [d.terms] := by
  cases d with
  | union inner => exact absurd rfl (h inner)
  | _ => simp [terms, alternatives]

namespace Legible

theorem alternatives_ne_nil (h : d.Legible) : d.alternatives ≠ [] := by
  induction h with
  | @union members hne _ ih =>
    obtain ⟨member, hmember⟩ := List.exists_mem_of_ne_nil members hne
    rw [alternatives_union, ne_eq, List.flatMap_eq_nil_iff]
    exact fun hnil => ih member hmember (hnil member hmember)
  | _ => simp [alternatives]

theorem terms_ne_nil (h : d.Legible) : d.terms ≠ [] := by
  induction h with
  | primitive | arrayOf => simp [terms, alternatives]
  | @union members hne _ ih =>
    obtain ⟨member, hmember⟩ := List.exists_mem_of_ne_nil members hne
    obtain ⟨term, hterm⟩ := List.exists_mem_of_ne_nil _ (ih member hmember)
    obtain ⟨alternative, halternative, hin⟩ := List.mem_flatten.mp hterm
    refine List.ne_nil_of_mem (List.mem_flatten.mpr ⟨alternative, ?_, hin⟩)
    rw [alternatives_union]
    exact List.mem_flatMap.mpr ⟨member, hmember, halternative⟩
  | @intersection members hne _ _ ih =>
    obtain ⟨member, hmember⟩ := List.exists_mem_of_ne_nil members hne
    rw [terms, alternatives_intersection, List.flatten_singleton, ne_eq,
      List.flatMap_eq_nil_iff]
    exact fun hnil => ih member hmember (hnil member hmember)

/-- Every alternative has terms. -/
theorem ne_nil_of_mem_alternatives (h : d.Legible) :
    ∀ alternative ∈ d.alternatives, alternative ≠ [] := by
  induction h with
  | primitive | arrayOf => simp [alternatives]
  | union _ _ ih =>
    rw [alternatives_union]
    intro alternative halternative
    obtain ⟨member, hmember, hin⟩ := List.mem_flatMap.mp halternative
    exact ih member hmember alternative hin
  | @intersection members hne hmembers hflat =>
    have hterms := (intersection hne hmembers hflat).terms_ne_nil
    rw [terms, alternatives_intersection, List.flatten_singleton] at hterms
    rwa [alternatives_intersection, List.forall_mem_singleton]

/-- What holds of base kinds and of arrays of legible items holds of all terms. -/
theorem forall_mem_terms {Q : Descriptor → Prop} (h : d.Legible)
    (hprimitive : ∀ p, Q (.primitive p))
    (harrayOf : ∀ item : Descriptor, item.Legible → (∀ term ∈ item.terms, Q term) →
      Q (.arrayOf item)) :
    ∀ term ∈ d.terms, Q term := by
  induction h with
  | primitive p => simpa [terms, alternatives] using hprimitive p
  | arrayOf hitem ih => simpa [terms, alternatives] using harrayOf _ hitem ih
  | union _ _ ih =>
    intro term hterm
    obtain ⟨alternative, halternative, hin⟩ := List.mem_flatten.mp hterm
    rw [alternatives_union] at halternative
    obtain ⟨member, hmember, halternative⟩ := List.mem_flatMap.mp halternative
    exact ih member hmember term (List.mem_flatten_of_mem halternative hin)
  | intersection _ _ _ ih =>
    intro term hterm
    rw [terms, alternatives_intersection, List.flatten_singleton] at hterm
    obtain ⟨member, hmember, hin⟩ := List.mem_flatMap.mp hterm
    exact ih member hmember term hin

end Legible

-- ════════════════════════════════════════════════════════════════════════
-- Texts
-- ════════════════════════════════════════════════════════════════════════

/-- The text of an alternative. -/
def allText (alternative : List Descriptor) : String :=
  " & ".intercalate (alternative.map render)

/-- The text of some alternatives. -/
def anyText (alternatives : List (List Descriptor)) : String :=
  " | ".intercalate (alternatives.map allText)

theorem anyText_singleton (alternative : List Descriptor) :
    anyText [alternative] = allText alternative := String.intercalate_singleton

/-- The text of a legible descriptor shows its alternatives. -/
theorem Legible.render_eq (h : d.Legible) : d.render = anyText d.alternatives := by
  induction h with
  | primitive | arrayOf =>
    rw [alternatives, anyText_singleton, allText, List.map_singleton, String.intercalate_singleton]
    all_goals exact nofun
  | @union members _ hmembers ih =>
    have hrows : ∀ row ∈ members.map (fun member => member.alternatives.map allText), row ≠ [] := by
      simpa using fun member hmember => (hmembers member hmember).alternatives_ne_nil
    rw [alternatives_union, anyText, List.map_flatMap, List.flatMap_def,
      ← Row.intercalate_flatten hrows, List.map_map, render, renderAll_eq_map,
      List.map_congr_left ih]
    rfl
  | @intersection members _ hmembers hflat ih =>
    have hrows : ∀ row ∈ members.map (fun member => member.terms.map render), row ≠ [] := by
      simpa using fun member hmember => (hmembers member hmember).terms_ne_nil
    have hmember : ∀ member ∈ members, member.render = allText member.terms := by
      intro member hmember
      rw [ih member hmember, alternatives_eq_singleton (hflat member hmember), anyText_singleton]
    rw [alternatives_intersection, anyText_singleton, allText, List.map_flatMap,
      List.flatMap_def, ← Row.intercalate_flatten hrows, List.map_map, render, renderAll_eq_map,
      List.map_congr_left hmember]
    rfl

-- ════════════════════════════════════════════════════════════════════════
-- Meaning
-- ════════════════════════════════════════════════════════════════════════

/-- The alternatives of a legible descriptor are its meaning. -/
theorem Legible.conforms_iff {verdict : Guard Descriptor → Value → Bool} {v : Value}
    (h : d.Legible) : Conforms verdict v d ↔
      ∃ alternative ∈ d.alternatives, ∀ term ∈ alternative, Conforms verdict v term := by
  induction h with
  | primitive | arrayOf => simp [alternatives]
  | union _ _ ih =>
    rw [conforms_union, alternatives_union]
    constructor
    · rintro ⟨member, hmember, h⟩
      obtain ⟨alternative, hin, h⟩ := (ih member hmember).mp h
      exact ⟨alternative, List.mem_flatMap.mpr ⟨member, hmember, hin⟩, h⟩
    · rintro ⟨alternative, hin, h⟩
      obtain ⟨member, hmember, hin⟩ := List.mem_flatMap.mp hin
      exact ⟨member, hmember, (ih member hmember).mpr ⟨alternative, hin, h⟩⟩
  | @intersection members _ _ hflat ih =>
    have hmember : ∀ member ∈ members,
        (Conforms verdict v member ↔ ∀ term ∈ member.terms, Conforms verdict v term) := by
      intro member hmember
      rw [ih member hmember, alternatives_eq_singleton (hflat member hmember)]
      simp
    rw [conforms_intersection, alternatives_intersection]
    simp only [List.mem_singleton, exists_eq_left, List.forall_mem_flatMap]
    exact forall_congr' fun member => forall_congr' (hmember member)

-- ════════════════════════════════════════════════════════════════════════
-- Reading back
-- ════════════════════════════════════════════════════════════════════════

/-- What can follow a term: a separator, or the end of an array. -/
def AfterTerm (cs : List Char) : Prop := ∀ c ∈ cs.head?, c = ' ' ∨ c = '>'

/-- What can follow an alternative. -/
def AfterAlternative (cs : List Char) : Prop := AfterTerm cs ∧ ¬ " & ".toList <+: cs

/-- What can follow an expectation. -/
def AfterExpectation (cs : List Char) : Prop := ∀ c ∈ cs.head?, c = '>'

/-- The text as characters. -/
def characters (d : Descriptor) : List Char := d.render.toList

variable {rest : List Char} {item : Descriptor}

theorem AfterTerm.ends (h : AfterTerm rest) : Run.Ends Char.isAlpha rest := by
  intro c hc
  rcases h c hc with rfl | rfl <;> rfl

theorem afterExpectation_bracket (rest : List Char) : AfterExpectation ('>' :: rest) := by
  rintro c ⟨⟩
  rfl

theorem AfterExpectation.afterAlternative (h : AfterExpectation rest) : AfterAlternative rest := by
  refine ⟨fun c hc => .inr (h c hc), ?_⟩
  rintro ⟨more, rfl⟩
  exact absurd (h ' ' rfl) (by decide)

theorem afterAlternative_bar (rest : List Char) : AfterAlternative (" | ".toList ++ rest) := by
  refine ⟨fun c hc => .inl ?_, ?_⟩
  · exact (Option.some.inj hc).symm
  · rintro ⟨more, hmore⟩
    exact absurd (List.cons.inj (List.cons.inj hmore).2).1 (by decide)

theorem isAlpha_of_mem_name (p : Primitive) : ∀ c ∈ p.name.toList, c.isAlpha = true := by
  rw [← List.all_eq_true]
  cases p <;> rfl

theorem isAlpha_of_mem_array : ∀ c ∈ "array".toList, c.isAlpha = true := by
  rw [← List.all_eq_true]
  rfl

theorem name_injective {p q : Primitive} (h : p.name = q.name) : p = q := by
  cases p <;> cases q <;> simp [Primitive.name] at h ⊢

theorem characters_arrayOf_append (item : Descriptor) (rest : List Char) :
    (arrayOf item).characters ++ rest =
      "array".toList ++ ('<' :: (item.characters ++ '>' :: rest)) := by
  simp [characters, render]

/-- A base kind is a word, and no other term is this word. -/
theorem told_primitive (p : Primitive) :
    Row.Told IsTerm SameMeaning characters AfterTerm (primitive p) := by
  intro y rest rest' hy hrest hrest' h
  cases hy with
  | primitive q =>
    obtain ⟨hname, hrests⟩ := Run.append_inj (isAlpha_of_mem_name p) (isAlpha_of_mem_name q)
      hrest.ends hrest'.ends h
    rw [name_injective (String.toList_inj.mp hname)]
    exact ⟨fun _ _ => Iff.rfl, hrests⟩
  | @arrayOf item =>
    rw [characters_arrayOf_append] at h
    obtain ⟨hname, -⟩ := Run.append_inj (isAlpha_of_mem_name p) isAlpha_of_mem_array hrest.ends
      (Run.ends_cons (by decide)) h
    exact absurd (String.toList_inj.mp hname) (by cases p <;> decide)

/-- The item of an array is told by what stands between its brackets. -/
theorem told_arrayOf (hitem : Row.Told Legible SameMeaning characters AfterExpectation item) :
    Row.Told IsTerm SameMeaning characters AfterTerm (arrayOf item) := by
  intro y rest rest' hy hrest hrest' h
  rw [characters_arrayOf_append] at h
  cases hy with
  | primitive q =>
    obtain ⟨hname, -⟩ := Run.append_inj isAlpha_of_mem_array (isAlpha_of_mem_name q)
      (Run.ends_cons (by decide)) hrest'.ends h
    exact absurd (String.toList_inj.mp hname).symm (by cases q <;> decide)
  | arrayOf hlegible =>
    rw [characters_arrayOf_append] at h
    obtain ⟨hmeaning, hrests⟩ := hitem _ _ _ hlegible (afterExpectation_bracket rest)
      (afterExpectation_bracket rest') (List.cons.inj (List.append_cancel_left h)).2
    refine ⟨fun verdict v => ?_, (List.cons.inj hrests).2⟩
    simp only [conforms_arrayOf, hmeaning verdict]

/-- Alternatives of terms that are told are told. -/
theorem told_alternatives {alternatives : List (List Descriptor)} (hne : alternatives ≠ [])
    (halternatives : ∀ alternative ∈ alternatives, alternative ≠ [])
    (hterms : ∀ alternative ∈ alternatives, ∀ term ∈ alternative,
      Row.Told IsTerm SameMeaning characters AfterTerm term) :
    Row.Told
      (fun others => others ≠ [] ∧ ∀ other ∈ others, other ≠ [] ∧ ∀ term ∈ other, term.IsTerm)
      (List.Forall₂ (List.Forall₂ SameMeaning))
      (fun others => " | ".toList.intercalate
        (others.map fun other => " & ".toList.intercalate (other.map characters)))
      AfterExpectation alternatives := by
  refine Row.Told.row afterAlternative_bar (fun _ => AfterExpectation.afterAlternative) ?_ hne ?_
  · intro cs h
    exact absurd (h ' ' rfl) (by decide)
  · intro alternative halternative
    refine Row.Told.row ?_ (fun _ h => h.1) ?_ (halternatives alternative halternative)
      (hterms alternative halternative)
    · intro cs c hc
      exact .inl (Option.some.inj hc).symm
    · intro cs h
      exact h.2 (List.prefix_append _ _)

theorem Legible.characters_eq {d : Descriptor} (h : d.Legible) :
    d.characters = " | ".toList.intercalate
      (d.alternatives.map fun other => " & ".toList.intercalate (other.map characters)) := by
  rw [characters, h.render_eq, anyText, String.toList_intercalate, List.map_map]
  refine congrArg _ (List.map_congr_left fun alternative _ => ?_)
  rw [Function.comp_apply, allText, String.toList_intercalate, List.map_map]
  rfl

theorem sameMeaning_of_alternatives {d e : Descriptor} (hd : d.Legible) (he : e.Legible)
    (h : List.Forall₂ (List.Forall₂ SameMeaning) d.alternatives e.alternatives) :
    SameMeaning d e := by
  intro verdict v
  rw [hd.conforms_iff, he.conforms_iff]
  have hall {xs ys : List Descriptor} (hxs : List.Forall₂ SameMeaning xs ys) :
      (∀ x ∈ xs, Conforms verdict v x) ↔ ∀ y ∈ ys, Conforms verdict v y := by
    induction hxs with
    | nil => simp
    | cons hxy _ ih => simp only [List.forall_mem_cons, hxy verdict v, ih]
  generalize d.alternatives = xs at h
  generalize e.alternatives = ys at h
  induction h with
  | nil => simp
  | cons hxy _ ih => simp only [List.exists_mem_cons_iff, hall hxy, ih]

theorem Legible.isTerm (h : d.Legible) : ∀ term ∈ d.terms, term.IsTerm :=
  h.forall_mem_terms .primitive fun _ hitem _ => .arrayOf hitem

theorem Legible.told_of_terms {d : Descriptor} (h : d.Legible)
    (hterms : ∀ term ∈ d.terms, Row.Told IsTerm SameMeaning characters AfterTerm term) :
    Row.Told Legible SameMeaning characters AfterExpectation d := by
  intro e rest rest' he hrest hrest' htext
  have htold := told_alternatives h.alternatives_ne_nil h.ne_nil_of_mem_alternatives
    fun alternative halternative term hterm =>
      hterms term (List.mem_flatten_of_mem halternative hterm)
  rw [h.characters_eq, he.characters_eq] at htext
  obtain ⟨hsame, hrests⟩ := htold e.alternatives rest rest' ⟨he.alternatives_ne_nil,
    fun alternative halternative => ⟨he.ne_nil_of_mem_alternatives alternative halternative,
      fun term hterm => he.isTerm term (List.mem_flatten_of_mem halternative hterm)⟩⟩
    hrest hrest' htext
  exact ⟨sameMeaning_of_alternatives h he hsame, hrests⟩

/-- A legible descriptor is told, up to its meaning, by its text. -/
theorem Legible.told (h : d.Legible) :
    Row.Told Legible SameMeaning characters AfterExpectation d :=
  h.told_of_terms <| h.forall_mem_terms told_primitive
    fun _ hitem hterms => told_arrayOf (hitem.told_of_terms hterms)

theorem Legible.sameMeaning {e : Descriptor} (hd : d.Legible) (he : e.Legible)
    (h : d.render = e.render) : SameMeaning d e := by
  have htexts : d.characters ++ [] = e.characters ++ [] := by rw [characters, characters, h]
  exact (hd.told e [] [] he nofun nofun htexts).1

theorem Legible.guardFree (h : d.Legible) : d.GuardFree := by
  induction h with
  | primitive p => exact .primitive p
  | arrayOf _ ih => exact .arrayOf ih
  | union _ _ ih => exact .union ih
  | intersection _ _ _ ih => exact .intersection ih

end Descriptor

namespace Validator

/-- Expectations can be read one way only. Two descriptors made of base kinds, arrays, unions and
    intersections of at least one member, no union being a member of an intersection, that have the
    same text come to the same verdict on every value, whenever the limit is at least the height of
    both. -/
theorem expectations_readable_one_way {d e : Descriptor} (hd : d.Legible) (he : e.Legible)
    (htext : d.render = e.render) (va : Validator) (hdheight : d.height ≤ va.maxDepth)
    (heheight : e.height ≤ va.maxDepth) (v : Value) :
    ∃ verdict, (va.accepts v d).outcome = .ok verdict ∧ (va.accepts v e).outcome = .ok verdict := by
  have hdecides : (va.accepts v d).Decides (Conforms (fun _ _ => false) v d) :=
    decides_conforms 0 v d .root hd.guardFree.allGuards hdheight
  have hedecides : (va.accepts v e).Decides (Conforms (fun _ _ => false) v e) :=
    decides_conforms 0 v e .root he.guardFree.allGuards heheight
  have hsame := hdecides.outcome_eq hedecides (hd.sameMeaning he htext _ v)
  obtain ⟨verdict, hverdict, -⟩ := hdecides
  exact ⟨verdict, hverdict, hsame.symm.trans hverdict⟩

/-- A union in a union, and an intersection in an intersection at its front. -/
def nestedNames : Descriptor :=
  .union [.primitive .string, .union [
    .intersection [.intersection [.primitive .object, .primitive .nullish], .primitive .number],
    .arrayOf (.union [.primitive .null, .primitive .string])]]

/-- The same text with other rows in rows. -/
def regroupedNames : Descriptor :=
  .union [.union [.primitive .string,
    .intersection [.primitive .object, .intersection [.primitive .nullish, .primitive .number]]],
    .arrayOf (.union [.union [.primitive .null], .primitive .string])]

theorem expectations_readable_one_way_names :
    nestedNames.Legible ∧ regroupedNames.Legible ∧ nestedNames.render = regroupedNames.render ∧
    nestedNames.height ≤ 4 ∧ regroupedNames.height ≤ 4 ∧
    ∃ verdict,
      (accepts ⟨4, fun _ => none⟩ (.array [.null, .string "a"]) nestedNames).outcome = .ok verdict ∧
      (accepts ⟨4, fun _ => none⟩ (.array [.null, .string "a"]) regroupedNames).outcome =
        .ok verdict := by
  have hnested : nestedNames.Legible := by simp [nestedNames]
  have hregrouped : regroupedNames.Legible := by simp [regroupedNames]
  have htext : nestedNames.render = regroupedNames.render := by decide
  have hheight : nestedNames.height ≤ 4 := by decide
  have hheight' : regroupedNames.height ≤ 4 := by decide
  exact ⟨hnested, hregrouped, htext, hheight, hheight', expectations_readable_one_way hnested
    hregrouped htext ⟨4, fun _ => none⟩ hheight hheight' _⟩

end Validator

end Conform
