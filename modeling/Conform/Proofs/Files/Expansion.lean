import Conform.Files.Glob.Expansion
import Conform.Proofs.Files.FilePath
import Conform.Proofs.Files.Looking

/-!
# What patterns stand for

A pattern leads from a directory to paths, part by part. Its expansion finds all of these paths and
no others, provided that every directory on the way can be listed; otherwise it stops at one that
cannot.

## Main definitions

- `Glob.Step` — one part further
- `Glob.Leads` — where parts lead to, however deep that is
- `Glob.Refuses` — the directories on the way that cannot be listed
- `Glob.Malformed`, `Glob.StandsFor`, `Glob.HeldUp` — the same for whole patterns
- `Glob.Exact` — an expansion that finds all there is

## Main results

- `Glob.looks_descend` — the levels of a descent are enough
- `Glob.looks_search` — the parts of a pattern are followed exactly
- `Glob.looks_expand_of_not_malformed` — patterns are expanded exactly
-/

namespace Conform.Glob

open FileAccess

variable {σ : Type} {s : σ}

-- ════════════════════════════════════════════════════════════════════════
-- Exact expansions
-- ════════════════════════════════════════════════════════════════════════

/-- The expansion finds the paths in `P` and no others, or else stops at one of the directories in
    `R`, of which there are none otherwise. -/
def Exact (P : FilePath → Prop) (R : FilePath → FileError → Prop) : Expansion → Prop
  | .ok paths => (∀ path, path ∈ paths ↔ P path) ∧ ∀ directory refusal, ¬ R directory refusal
  | .error (.unreadable directory refusal) => R directory refusal
  | .error (.pattern _) => False

namespace Exact

variable {P P' : FilePath → Prop} {R R' : FilePath → FileError → Prop} {found found' : Expansion}

theorem congr (h : Exact P R found) (hP : ∀ path, P path ↔ P' path)
    (hR : ∀ directory refusal, R directory refusal ↔ R' directory refusal) :
    Exact P' R' found := by
  match found with
  | .ok paths =>
    exact ⟨fun path => (h.1 path).trans (hP path), fun d r => (hR d r).not.mp (h.2 d r)⟩
  | .error (.unreadable d r) => exact (hR d r).mp h
  | .error (.pattern _) => exact h

/-- Nothing is to be found. -/
theorem none (hP : ∀ path, ¬ P path) (hR : ∀ directory refusal, ¬ R directory refusal) :
    Exact P R (.ok []) :=
  ⟨fun path => iff_of_false List.not_mem_nil (hP path), hR⟩

/-- One path is to be found. -/
theorem one (hP : ∀ path', P path' ↔ path' = path)
    (hR : ∀ directory refusal, ¬ R directory refusal) : Exact P R (.ok [path]) :=
  ⟨fun path' => List.mem_singleton.trans (hP path').symm, hR⟩

/-- What is found one after the other. -/
theorem append (h : Exact P R found) (h' : Exact P' R' found') :
    Exact (fun path => P path ∨ P' path)
      (fun directory refusal => R directory refusal ∨ R' directory refusal)
      (do return (← found) ++ (← found')) := by
  match found, found' with
  | .ok paths, .ok paths' =>
    refine ⟨fun path => ?_, fun d r => not_or.mpr ⟨h.2 d r, h'.2 d r⟩⟩
    rw [List.mem_append, h.1, h'.1]
  | .ok paths, .error (.unreadable d r) => exact .inr h'
  | .ok paths, .error (.pattern _) => exact h'.elim
  | .error (.unreadable d r), _ => exact .inl h
  | .error (.pattern _), _ => exact h.elim

end Exact

theorem looks_collect {α : Type} {find : α → StateM σ Expansion} {P : α → FilePath → Prop}
    {R : α → FilePath → FileError → Prop} {as : List α}
    (h : ∀ a ∈ as, Looks s (find a) (Exact (P a) (R a))) :
    Looks s (collect find as) (Exact (fun path => ∃ a ∈ as, P a path)
      fun directory refusal => ∃ a ∈ as, R a directory refusal) := by
  induction as with
  | nil => exact .pure (.none nofun nofun)
  | cons a as ih =>
    obtain ⟨ha, has⟩ := List.forall_mem_cons.mp h
    have hcons {found more : Expansion} (hfound : Exact (P a) (R a) found)
        (hmore : Exact (fun path => ∃ a ∈ as, P a path)
          (fun directory refusal => ∃ a ∈ as, R a directory refusal) more) :
        Exact (fun path => ∃ b ∈ a :: as, P b path)
          (fun directory refusal => ∃ b ∈ a :: as, R b directory refusal)
          (do return (← found) ++ (← more)) :=
      (hfound.append hmore).congr (fun path => by simp) (fun directory refusal => by simp)
    refine ha.bind fun found hfound => ?_
    match found with
    | .ok paths =>
      refine (ih has).bind fun more hmore => .pure ?_
      cases more <;> exact hcons hfound hmore
    | .error (.unreadable d r) => exact .pure ⟨a, List.mem_cons_self, hfound⟩
    | .error (.pattern _) => exact hfound.elim

/-- What is found if a condition holds. -/
theorem looks_given {x : StateM σ Expansion} {P : FilePath → Prop} {R : FilePath → FileError → Prop}
    {b : Bool} (h : Looks s x (Exact P R)) :
    Looks s (given b x)
      (Exact (fun path => b = true ∧ P path) fun directory refusal =>
        b = true ∧ R directory refusal) := by
  cases b with
  | true =>
    exact h.imp fun found hfound =>
      hfound.congr (fun path => (and_iff_right rfl).symm) fun d r => (and_iff_right rfl).symm
  | false =>
    exact .pure (.none (fun path h => Bool.false_ne_true h.1) fun d r h => Bool.false_ne_true h.1)

variable [FileAccess (StateM σ)]

-- ════════════════════════════════════════════════════════════════════════
-- Following a pattern
-- ════════════════════════════════════════════════════════════════════════

/-- The place at a path. What is told about it beforehand is taken for granted. -/
def placeIn (s : σ) (path : FilePath) (kind? : Option FileKind) : Place :=
  ⟨path, kind?.or (kindIn? s path) == some .directory⟩

/-- The place is taken for a directory, and these are its entries. -/
structure Lists (s : σ) (here : Place) (listed : List DirectoryEntry) : Prop where
  isDirectory : here.isDirectory = true
  entries_eq : entriesIn s here.path = .ok listed

/-- The place is taken for a directory, but it cannot be listed. -/
structure Conceals (s : σ) (here : Place) (refusal : FileError) : Prop where
  isDirectory : here.isDirectory = true
  entries_eq : entriesIn s here.path = .error refusal

/-- There is an entry of this name. Dots are entries of every directory. -/
def Has (s : σ) (here : Place) (name : String) : Prop :=
  if name = "." ∨ name = ".." then here.isDirectory = true
  else isThereIn s (child here.path name) = true

/-- What a directory that can be listed offers to a search under this name: one of the given dots,
    or an entry. -/
inductive Offers (s : σ) (here : Place) (dots : List String) : String → Place → Prop where
  | dot {listed : List DirectoryEntry} {name : String} (lists : Lists s here listed)
      (mem : name ∈ dots) : Offers s here dots name (placeIn s (here.path.join name) none)
  | entry {listed : List DirectoryEntry} {e : DirectoryEntry} (lists : Lists s here listed)
      (mem : e ∈ listed) : Offers s here dots e.name (placeIn s (child here.path e.name) e.kind?)

/-- From a place, and the parts that are to be followed from there, one part further. -/
inductive Step (s : σ) : List Part → Place → List Part → Place → Prop where
  | literal {name : String} {rest : List Part} {here : Place} (has : Has s here name) :
      Step s (.literal name :: rest) here rest (placeIn s (child here.path name) none)
  /-- Wildcards stand for dots if they are told to. -/
  | wild {tokens : List Token} {rest : List Part} {here next : Place} {name : String}
      (offers : Offers s here (dots tokens) name next)
      (covers : covers tokens name.toList = true) : Step s (.wild tokens :: rest) here rest next
  /-- Any directories may be followed further down. -/
  | down {rest : List Part} {here next : Place} {name : String}
      (offers : Offers s here [] name next) (isDirectory : next.isDirectory = true) :
      Step s (.anyDirectories :: rest) here (.anyDirectories :: rest) next
  /-- Any directories end where the next part stands for the entry. -/
  | past {part : Part} {rest : List Part} {here next : Place} {name : String}
      (offers : Offers s here [] name next) (covers : part.covers name = true) :
      Step s (.anyDirectories :: part :: rest) here rest next

/-- The parts lead from the place to the path. -/
inductive Leads (s : σ) (onlyDirectories : Bool) : List Part → Place → FilePath → Prop where
  | here {place : Place} (isDirectory : onlyDirectories = true → place.isDirectory = true) :
      Leads s onlyDirectories [] place place.path
  /-- At the end of a pattern any directories stand for each of them. -/
  | inside {here next : Place} {name : String} (offers : Offers s here [] name next)
      (isDirectory : next.isDirectory = true) :
      Leads s onlyDirectories [.anyDirectories] here next.path
  | step {parts parts' : List Part} {here next : Place} {path : FilePath}
      (first : Step s parts here parts' next) (more : Leads s onlyDirectories parts' next path) :
      Leads s onlyDirectories parts here path

/-- The parts lead from the place to a directory that is to be listed but cannot be. -/
inductive Refuses (s : σ) : List Part → Place → FilePath → FileError → Prop where
  | here {part : Part} {rest : List Part} {place : Place} {refusal : FileError}
      (wild : ∀ name, part ≠ .literal name) (conceals : Conceals s place refusal) :
      Refuses s (part :: rest) place place.path refusal
  | step {parts parts' : List Part} {here next : Place} {directory : FilePath}
      {refusal : FileError} (first : Step s parts here parts' next)
      (more : Refuses s parts' next directory refusal) : Refuses s parts here directory refusal

/-- Patterns that cannot be read, as a whole or part by part. -/
def Malformed (pattern : String) : Prop :=
  (∃ e, tokens pattern = .error e) ∨ ∃ e, parts pattern = .error e

/-- The directory that a pattern starts from. -/
def origin (pattern : String) : FilePath := ⟨if pattern.toList.head? = some '/' then "/" else "."⟩

/-- The pattern leads to the path. If the pattern ends in a slash, there is a directory. -/
def StandsFor (s : σ) (pattern : String) (path : FilePath) : Prop :=
  ∃ ps, parts pattern = .ok ps ∧
    Leads s (pattern.toList.getLast? = some '/') ps (placeIn s (origin pattern) none) path

/-- The pattern leads to a directory that is to be listed but cannot be. -/
def HeldUp (s : σ) (pattern : String) (directory : FilePath) (refusal : FileError) : Prop :=
  ∃ ps, parts pattern = .ok ps ∧
    Refuses s ps (placeIn s (origin pattern) none) directory refusal

variable {s : σ} {onlyDirectories : Bool} {part : Part} {rest : List Part} {tokens : List Token}
variable {name : String} {dots : List String} {here next : Place} {path directory : FilePath}
variable {refusal : FileError} {listed : List DirectoryEntry}

theorem Offers.exists_lists (h : Offers s here dots name next) : ∃ listed, Lists s here listed := by
  cases h with
  | dot lists _ => exact ⟨_, lists⟩
  | entry lists _ => exact ⟨_, lists⟩

theorem Lists.not_conceals (h : Lists s here listed) : ¬ Conceals s here refusal := by
  intro hconceals
  cases h.entries_eq.symm.trans hconceals.entries_eq

/-- A directory offers its entries, after the dots. -/
theorem Lists.offers_iff (h : Lists s here listed) :
    Offers s here dots name next ↔ ∃ offer ∈ offers here.path dots listed,
      offer.2.name = name ∧ placeIn s offer.1 offer.2.kind? = next := by
  simp only [offers, List.mem_append, List.mem_map, List.mem_mergeSort]
  constructor
  · rintro (⟨lists, mem⟩ | ⟨lists, mem⟩)
    · exact ⟨_, .inl ⟨_, mem, rfl⟩, rfl, rfl⟩
    · obtain rfl := Except.ok.inj (h.entries_eq.symm.trans lists.entries_eq)
      exact ⟨_, .inr ⟨_, mem, rfl⟩, rfl, rfl⟩
  · rintro ⟨-, ⟨name, mem, rfl⟩ | ⟨e, mem, rfl⟩, rfl, rfl⟩
    · exact .dot h mem
    · exact .entry h mem

-- ════════════════════════════════════════════════════════════════════════
-- One part of a pattern
-- ════════════════════════════════════════════════════════════════════════

theorem leads_nil_iff : Leads s onlyDirectories [] here path ↔
    (onlyDirectories = true → here.isDirectory = true) ∧ path = here.path := by
  constructor
  · intro h
    cases h with
    | here isDirectory => exact ⟨isDirectory, rfl⟩
    | step first _ => cases first
  · rintro ⟨isDirectory, rfl⟩
    exact .here isDirectory

theorem not_refuses_nil : ¬ Refuses s [] here directory refusal := by
  intro h
  cases h with
  | step first _ => cases first

theorem leads_literal_iff : Leads s onlyDirectories (.literal name :: rest) here path ↔
    Has s here name ∧
      Leads s onlyDirectories rest (placeIn s (child here.path name) none) path := by
  constructor
  · intro h
    cases h with
    | step first more =>
      cases first with
      | literal has => exact ⟨has, more⟩
  · rintro ⟨has, more⟩
    exact .step (.literal has) more

theorem refuses_literal_iff : Refuses s (.literal name :: rest) here directory refusal ↔
    Has s here name ∧
      Refuses s rest (placeIn s (child here.path name) none) directory refusal := by
  constructor
  · intro h
    cases h with
    | here wild _ => exact absurd rfl (wild name)
    | step first more =>
      cases first with
      | literal has => exact ⟨has, more⟩
  · rintro ⟨has, more⟩
    exact .step (.literal has) more

theorem leads_wild_iff : Leads s onlyDirectories (.wild tokens :: rest) here path ↔
    ∃ name next, Offers s here (Glob.dots tokens) name next ∧
      covers tokens name.toList = true ∧ Leads s onlyDirectories rest next path := by
  constructor
  · intro h
    cases h with
    | step first more =>
      cases first with
      | wild offers covers => exact ⟨_, _, offers, covers, more⟩
  · rintro ⟨name, next, offers, covers, more⟩
    exact .step (.wild offers covers) more

theorem refuses_wild_iff : Refuses s (.wild tokens :: rest) here directory refusal ↔
    (Conceals s here refusal ∧ directory = here.path) ∨
      ∃ name next, Offers s here (Glob.dots tokens) name next ∧
        covers tokens name.toList = true ∧ Refuses s rest next directory refusal := by
  constructor
  · intro h
    cases h with
    | here _ conceals => exact .inl ⟨conceals, rfl⟩
    | step first more =>
      cases first with
      | wild offers covers => exact .inr ⟨_, _, offers, covers, more⟩
  · rintro (⟨conceals, rfl⟩ | ⟨name, next, offers, covers, more⟩)
    · exact .here (by rintro _ ⟨⟩) conceals
    · exact .step (.wild offers covers) more

/-- Any directories at the end of a pattern lead to each of them, and further down. -/
theorem leads_last_iff : Leads s onlyDirectories [.anyDirectories] here path ↔
    ∃ name next, Offers s here [] name next ∧
      ((next.isDirectory = true ∧ path = next.path) ∨
        next.isDirectory = true ∧ Leads s onlyDirectories [.anyDirectories] next path) := by
  constructor
  · intro h
    cases h with
    | inside offers isDirectory => exact ⟨_, _, offers, .inl ⟨isDirectory, rfl⟩⟩
    | step first more =>
      cases first with
      | down offers isDirectory => exact ⟨_, _, offers, .inr ⟨isDirectory, more⟩⟩
  · rintro ⟨name, next, offers, ⟨isDirectory, rfl⟩ | ⟨isDirectory, more⟩⟩
    · exact .inside offers isDirectory
    · exact .step (.down offers isDirectory) more

theorem refuses_last_iff : Refuses s [.anyDirectories] here directory refusal ↔
    (Conceals s here refusal ∧ directory = here.path) ∨
      ∃ name next, Offers s here [] name next ∧
        (False ∨ next.isDirectory = true ∧ Refuses s [.anyDirectories] next directory refusal) := by
  constructor
  · intro h
    cases h with
    | here _ conceals => exact .inl ⟨conceals, rfl⟩
    | step first more =>
      cases first with
      | down offers isDirectory => exact .inr ⟨_, _, offers, .inr ⟨isDirectory, more⟩⟩
  · rintro (⟨conceals, rfl⟩ | ⟨name, next, offers, hbelow⟩)
    · exact .here (by rintro _ ⟨⟩) conceals
    · obtain ⟨isDirectory, more⟩ := hbelow.resolve_left id
      exact .step (.down offers isDirectory) more

/-- Any directories lead past each entry that the next part stands for, and further down. -/
theorem leads_past_iff : Leads s onlyDirectories (.anyDirectories :: part :: rest) here path ↔
    ∃ name next, Offers s here [] name next ∧
      ((part.covers name = true ∧ Leads s onlyDirectories rest next path) ∨
        next.isDirectory = true ∧
          Leads s onlyDirectories (.anyDirectories :: part :: rest) next path) := by
  constructor
  · intro h
    cases h with
    | step first more =>
      cases first with
      | down offers isDirectory => exact ⟨_, _, offers, .inr ⟨isDirectory, more⟩⟩
      | past offers covers => exact ⟨_, _, offers, .inl ⟨covers, more⟩⟩
  · rintro ⟨name, next, offers, ⟨covers, more⟩ | ⟨isDirectory, more⟩⟩
    · exact .step (.past offers covers) more
    · exact .step (.down offers isDirectory) more

theorem refuses_past_iff :
    Refuses s (.anyDirectories :: part :: rest) here directory refusal ↔
      (Conceals s here refusal ∧ directory = here.path) ∨
        ∃ name next, Offers s here [] name next ∧
          ((part.covers name = true ∧ Refuses s rest next directory refusal) ∨
            next.isDirectory = true ∧
              Refuses s (.anyDirectories :: part :: rest) next directory refusal) := by
  constructor
  · intro h
    cases h with
    | here _ conceals => exact .inl ⟨conceals, rfl⟩
    | step first more =>
      cases first with
      | down offers isDirectory => exact .inr ⟨_, _, offers, .inr ⟨isDirectory, more⟩⟩
      | past offers covers => exact .inr ⟨_, _, offers, .inl ⟨covers, more⟩⟩
  · rintro (⟨conceals, rfl⟩ | ⟨name, next, offers, ⟨covers, more⟩ | ⟨isDirectory, more⟩⟩)
    · exact .here (by rintro _ ⟨⟩) conceals
    · exact .step (.past offers covers) more
    · exact .step (.down offers isDirectory) more

/-- The expansion finds where the parts lead to from a place. -/
def Follows (s : σ) (onlyDirectories : Bool) (parts : List Part) (here : Place) :
    Expansion → Prop :=
  Exact (Leads s onlyDirectories parts here) (Refuses s parts here)

theorem follows_nil (onlyDirectories : Bool) (here : Place) :
    Follows s onlyDirectories [] here
      (.ok (if onlyDirectories && !here.isDirectory then [] else [here.path])) := by
  split
  · next hno =>
    obtain ⟨honly, hnot⟩ := Bool.and_eq_true_iff.mp hno
    refine .none (fun path h => ?_) fun _ _ => not_refuses_nil
    have hdirectory := (leads_nil_iff.mp h).1 honly
    rw [hdirectory] at hnot
    cases hnot
  · next hyes =>
    refine .one (fun path => ?_) fun _ _ => not_refuses_nil
    rw [leads_nil_iff, and_iff_right_iff_imp]
    rintro rfl honly
    simpa [honly] using hyes

section

variable [Lawful σ]

-- ════════════════════════════════════════════════════════════════════════
-- Going through a directory
-- ════════════════════════════════════════════════════════════════════════

theorem looks_place (path : FilePath) (kind? : Option FileKind) :
    Looks s (Place.of path kind?) (· = placeIn s path kind?) := by
  cases kind? with
  | some kind => exact .pure (by cases kind <;> rfl)
  | none => exact (looks_isDirectory path).bind fun isDirectory h => .pure (by rw [h]; rfl)

theorem looks_has (here : Place) (name : String) :
    Looks s (has here name) (· = true ↔ Has s here name) := by
  unfold has Has
  split
  · exact .pure Iff.rfl
  · exact (looks_isThere _).imp fun isThere h => by rw [h]

/-- What is found from each entry is found from the directory. -/
theorem looks_fromEntries {found : String → Place → StateM σ Expansion}
    {P : String → Place → FilePath → Prop} {R : String → Place → FilePath → FileError → Prop}
    (h : ∀ name next, Offers s here dots name next →
      Looks s (found name next) (Exact (P name next) (R name next))) :
    Looks s (fromEntries dots found here) (Exact
      (fun path => ∃ name next, Offers s here dots name next ∧ P name next path)
      fun directory refusal => (Conceals s here refusal ∧ directory = here.path) ∨
        ∃ name next, Offers s here dots name next ∧ R name next directory refusal) := by
  unfold fromEntries
  cases hdirectory : here.isDirectory with
  | false =>
    refine .pure (.none ?_ ?_)
    · rintro path ⟨name, next, hoffers, -⟩
      obtain ⟨listed, hlists⟩ := hoffers.exists_lists
      exact Bool.false_ne_true (hdirectory.symm.trans hlists.isDirectory)
    · rintro directory refusal (⟨hconceals, -⟩ | ⟨name, next, hoffers, -⟩)
      · exact Bool.false_ne_true (hdirectory.symm.trans hconceals.isDirectory)
      · obtain ⟨listed, hlists⟩ := hoffers.exists_lists
        exact Bool.false_ne_true (hdirectory.symm.trans hlists.isDirectory)
  | true =>
    refine (looks_entries here.path).bind fun listed hlisted => ?_
    cases listed with
    | error refusal => exact .pure (.inl ⟨⟨hdirectory, hlisted.symm⟩, rfl⟩)
    | ok listed =>
      have hlists : Lists s here listed := ⟨hdirectory, hlisted.symm⟩
      have hcollect : ∀ offer ∈ offers here.path dots listed,
          Looks s (do found offer.2.name (← Place.of offer.1 offer.2.kind?))
            (Exact (P offer.2.name (placeIn s offer.1 offer.2.kind?))
              (R offer.2.name (placeIn s offer.1 offer.2.kind?))) := by
        intro offer hoffer
        refine (looks_place offer.1 offer.2.kind?).bind ?_
        rintro _ rfl
        exact h _ _ (hlists.offers_iff.mpr ⟨offer, hoffer, rfl, rfl⟩)
      refine (looks_collect hcollect).imp fun expansion hexact =>
        hexact.congr (fun path => ?_) fun directory refusal => ?_
      · simp only [hlists.offers_iff]
        constructor
        · rintro ⟨offer, hoffer, hP⟩
          exact ⟨_, _, ⟨offer, hoffer, rfl, rfl⟩, hP⟩
        · rintro ⟨_, _, ⟨offer, hoffer, rfl, rfl⟩, hP⟩
          exact ⟨offer, hoffer, hP⟩
      · simp only [hlists.offers_iff]
        constructor
        · rintro ⟨offer, hoffer, hR⟩
          exact .inr ⟨_, _, ⟨offer, hoffer, rfl, rfl⟩, hR⟩
        · rintro (⟨hconceals, -⟩ | ⟨_, _, ⟨offer, hoffer, rfl, rfl⟩, hR⟩)
          · exact absurd hconceals hlists.not_conceals
          · exact ⟨offer, hoffer, hR⟩

/-- How much of a path counts: the working directory is no part of the paths in it. -/
def reach (path : FilePath) : Nat := if path.parts = [.here] then 0 else path.text.utf8ByteSize

/-- Every entry reaches further than its directory, which is not too long. -/
theorem Offers.reach_lt (h : Offers s here [] name next) :
    reach here.path < reach next.path ∧ reach here.path ≤ pathLimit := by
  cases h with
  | dot _ mem => cases mem
  | @entry listed e lists mem =>
    have hname := Lawful.isName lists.entries_eq e mem
    have hsize := Lawful.size_le lists.entries_eq
    show reach here.path < reach (child here.path e.name) ∧ _
    unfold child reach
    split
    · rw [if_neg (FilePath.parts_ne_here (FilePath.fileName?_of_isName hname))]
      exact ⟨FilePath.size_pos hname, Nat.zero_le _⟩
    · rw [if_neg (FilePath.parts_ne_here (FilePath.fileName?_join hname))]
      exact ⟨FilePath.size_lt_join hname, hsize⟩

/-- A descent goes as deep as the directories go, if its levels and the path together are more than
    a path may have: where they are used up, there is no path that can be listed. -/
theorem looks_descend {found : String → Place → StateM σ Expansion}
    {P : Place → FilePath → Prop} {R : Place → FilePath → FileError → Prop}
    {F : String → Place → FilePath → Prop} {G : String → Place → FilePath → FileError → Prop}
    (hP : ∀ here path, P here path ↔ ∃ name next, Offers s here [] name next ∧
      (F name next path ∨ next.isDirectory = true ∧ P next path))
    (hR : ∀ here directory refusal, R here directory refusal ↔
      (Conceals s here refusal ∧ directory = here.path) ∨
        ∃ name next, Offers s here [] name next ∧
          (G name next directory refusal ∨ next.isDirectory = true ∧ R next directory refusal))
    (hfound : ∀ name next, Looks s (found name next) (Exact (F name next) (G name next)))
    (levels : Nat) (here : Place) (hpos : 0 < levels)
    (hlevels : pathLimit + 1 < reach here.path + levels) :
    Looks s (descend found levels here) (Exact (P here) (R here)) := by
  -- a level is used up for a path that is longer, so their sum stays above the limit
  induction levels generalizing here with
  | zero => cases hpos
  | succ levels ih =>
    rw [descend]
    refine (looks_fromEntries (P := fun name next path =>
        F name next path ∨ next.isDirectory = true ∧ P next path)
      (R := fun name next directory refusal =>
        G name next directory refusal ∨ next.isDirectory = true ∧ R next directory refusal)
      fun name next hoffers => ?_).imp fun expansion hexact =>
        hexact.congr (fun path => (hP here path).symm) fun directory refusal =>
          (hR here directory refusal).symm
    obtain ⟨hreach, hlimit⟩ := hoffers.reach_lt
    have hbelow := ih next (by omega) (by omega)
    refine (hfound name next).bind fun own hown => ?_
    exact (looks_given hbelow).bind fun below hbelow => .pure (hown.append hbelow)

-- ════════════════════════════════════════════════════════════════════════
-- Following parts
-- ════════════════════════════════════════════════════════════════════════

/-- The parts of a pattern are followed exactly. -/
theorem looks_search (onlyDirectories : Bool) (parts : List Part) (here : Place) :
    Looks s (search onlyDirectories parts here) (Follows s onlyDirectories parts here) := by
  have hlevels (here : Place) : pathLimit + 1 < reach here.path + levels := by
    unfold levels
    omega
  fun_induction search (m := StateM σ) onlyDirectories parts here with
  | case1 here => exact .pure (follows_nil onlyDirectories here)
  | case2 name rest here ih =>
    refine (looks_place _ none).bind ?_
    rintro next rfl
    refine (looks_has here name).bind fun isThere hhas => ?_
    refine (looks_given (ih _)).imp fun expansion hexact =>
      hexact.congr (fun path => ?_) fun directory refusal => ?_
    · rw [leads_literal_iff, hhas]
    · rw [refuses_literal_iff, hhas]
  | case3 tokens rest here ih =>
    exact (looks_fromEntries fun name next _ => looks_given (ih next)).imp fun expansion hexact =>
      hexact.congr (fun path => leads_wild_iff.symm) fun directory refusal => refuses_wild_iff.symm
  | case4 here =>
    refine looks_descend (P := Leads s onlyDirectories [.anyDirectories])
      (R := Refuses s [.anyDirectories])
      (F := fun name next path => next.isDirectory = true ∧ path = next.path)
      (G := fun _ _ _ _ => False) (fun here path => leads_last_iff)
      (fun here directory refusal => refuses_last_iff) (fun name next => .pure ?_) levels here
      (Nat.succ_pos _) (hlevels here)
    cases hnext : next.isDirectory with
    | true => exact .one (fun path => and_iff_right rfl) fun _ _ => id
    | false => exact .none (fun path h => Bool.false_ne_true h.1) fun _ _ => id
  | case5 part rest here ih =>
    exact looks_descend (P := Leads s onlyDirectories (.anyDirectories :: part :: rest))
      (R := Refuses s (.anyDirectories :: part :: rest))
      (fun here path => leads_past_iff) (fun here directory refusal => refuses_past_iff)
      (fun name next => looks_given (ih next)) levels here (Nat.succ_pos _) (hlevels here)

end

-- ════════════════════════════════════════════════════════════════════════
-- Whole patterns
-- ════════════════════════════════════════════════════════════════════════

/-- A pattern that cannot be read is not expanded. -/
theorem looks_expand_of_malformed {pattern : String} (h : Malformed pattern) :
    Looks s (expand pattern) fun found => ∃ e, found = .error (.pattern e) := by
  unfold expand
  cases htokens : Glob.tokens pattern with
  | error e => exact .pure ⟨e, rfl⟩
  | ok tokens =>
    cases hparts : parts pattern with
    | error e => exact .pure ⟨e, rfl⟩
    | ok parts =>
      rcases h with ⟨e, he⟩ | ⟨e, he⟩
      · cases htokens.symm.trans he
      · cases hparts.symm.trans he

/-- A pattern that can be read is expanded to the paths that it stands for, unless a directory that
    cannot be listed holds the expansion up. -/
theorem looks_expand_of_not_malformed [Lawful σ] {pattern : String} (h : ¬ Malformed pattern) :
    Looks s (expand pattern) (Exact (StandsFor s pattern) (HeldUp s pattern)) := by
  unfold expand
  cases htokens : Glob.tokens pattern with
  | error e => exact absurd (.inl ⟨e, htokens⟩) h
  | ok tokens =>
    cases hparts : parts pattern with
    | error e => exact absurd (.inr ⟨e, hparts⟩) h
    | ok ps =>
      refine (looks_place (origin pattern) none).bind ?_
      rintro _ rfl
      refine (looks_search _ ps _).imp fun found hfound =>
        hfound.congr (fun path => ?_) fun directory refusal => ?_
      · rw [StandsFor, hparts]
        simp
      · rw [HeldUp, hparts]
        simp

end Conform.Glob
