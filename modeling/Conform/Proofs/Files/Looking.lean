import Mathlib.Data.List.Forall2
import Conform.Files.Disk

/-!
# Looking at files

Requests that only look at files leave them as they are, and so does whatever is made of such
requests. What they answer depends on the state of the files alone.

## Main definitions

- `FileAccess.Lawful` — what holds of requests for files
- `FileAccess.Looks` — a computation that leaves everything as it is, with what it answers
- `FileAccess.readIn`, `FileAccess.entriesIn`, `FileAccess.kindIn?` and `FileAccess.isThereIn` —
  what there is to be seen

## Main results

- `FileAccess.Looks.bind`, `FileAccess.looks_mapM` — looking step by step
-/

namespace Conform

namespace FileAccess

/-- Requests that only look at files leave everything as it is. A directory that can be listed has a
    path that is not too long, and its entries have names. -/
class Lawful (σ : Type) [FileAccess (StateM σ)] : Prop where
  read_snd (path : FilePath) (s : σ) : ((read path : StateM σ _) s).2 = s
  entries_snd (path : FilePath) (s : σ) : ((entries path : StateM σ _) s).2 = s
  kind?_snd (path : FilePath) (s : σ) : ((kind? path : StateM σ _) s).2 = s
  isThere_snd (path : FilePath) (s : σ) : ((isThere path : StateM σ _) s).2 = s
  size_le {path : FilePath} {s : σ} {listed : List DirectoryEntry}
    (h : ((entries path : StateM σ _) s).1 = .ok listed) : path.text.utf8ByteSize ≤ pathLimit
  isName {path : FilePath} {s : σ} {listed : List DirectoryEntry}
    (h : ((entries path : StateM σ _) s).1 = .ok listed) :
    ∀ e ∈ listed, FilePath.isName e.name = true

variable {σ α β : Type} {s : σ}

theorem exists_run (x : StateM σ α) (s : σ) : ∃ a s', x s = (a, s') := ⟨_, _, rfl⟩

/-- One computation goes on from where another has ended. -/
theorem run_bind {s' : σ} {x : StateM σ α} {f : α → StateM σ β} {a : α} (h : x s = (a, s')) :
    (x >>= f) s = f a s' := by
  show f (x s).1 (x s).2 = f a s'
  rw [h]

theorem run_map {s' : σ} {x : StateM σ α} {f : α → β} {a : α} (h : x s = (a, s')) :
    (f <$> x) s = (f a, s') := by
  show (f (x s).1, (x s).2) = (f a, s')
  rw [h]

/-- From the state `s` on a computation leaves everything as it is, and its answer is in `P`. -/
structure Looks (s : σ) (x : StateM σ α) (P : α → Prop) : Prop where
  state_eq : (x s).2 = s
  answer : P (x s).1

namespace Looks

variable {x : StateM σ α} {f : α → StateM σ β} {P : α → Prop} {Q : β → Prop} {a : α}

theorem eq (h : Looks s x P) : x s = ((x s).1, s) := Prod.ext rfl h.state_eq

theorem pure (h : P a) : Looks s (Pure.pure a) P := ⟨rfl, h⟩

/-- One look after the other. -/
theorem bind (hx : Looks s x P) (hf : ∀ a, P a → Looks s (f a) Q) : Looks s (x >>= f) Q := by
  have hfirst : (x >>= f) s = f (x s).1 s := run_bind hx.eq
  have hrest := hf _ hx.answer
  exact ⟨hfirst ▸ hrest.state_eq, hfirst ▸ hrest.answer⟩

theorem exists_run (h : Looks s x P) : ∃ a, P a ∧ x s = (a, s) := ⟨_, h.answer, h.eq⟩

/-- The answer is the one that is given in this state. -/
theorem run_eq (hx : Looks s x P) : Looks s x fun a => P a ∧ x s = (a, s) :=
  ⟨hx.state_eq, hx.answer, hx.eq⟩

theorem imp {P' : α → Prop} (hx : Looks s x P) (h : ∀ a, P a → P' a) : Looks s x P' :=
  ⟨hx.state_eq, h _ hx.answer⟩

end Looks

/-- Looking for one thing after another answers each of them. -/
theorem looks_mapM {f : α → StateM σ β} {R : α → β → Prop} {as : List α}
    (h : ∀ a ∈ as, Looks s (f a) (R a)) : Looks s (as.mapM f) (List.Forall₂ R as) := by
  induction as with
  | nil => exact .pure .nil
  | cons a as ih =>
    obtain ⟨ha, has⟩ := List.forall_mem_cons.mp h
    rw [List.mapM_cons]
    exact ha.bind fun b hb => (ih has).bind fun bs hbs => .pure (.cons hb hbs)

variable [FileAccess (StateM σ)]

/-- The bytes of a file in a state, or why they are refused. -/
def readIn (s : σ) (path : FilePath) : Except FileError (List UInt8) :=
  ((read path : StateM σ _) s).1

/-- The entries of a directory in a state, or why they are refused. -/
def entriesIn (s : σ) (path : FilePath) : Except FileError (List DirectoryEntry) :=
  ((entries path : StateM σ _) s).1

/-- What there is at a path in a state. -/
def kindIn? (s : σ) (path : FilePath) : Option FileKind := ((kind? path : StateM σ _) s).1

/-- Whether there is anything at a path in a state. -/
def isThereIn (s : σ) (path : FilePath) : Bool := ((isThere path : StateM σ _) s).1

variable [Lawful σ]

theorem looks_read (path : FilePath) : Looks s (read path) (· = readIn s path) :=
  ⟨Lawful.read_snd path s, rfl⟩

theorem looks_entries (path : FilePath) : Looks s (entries path) (· = entriesIn s path) :=
  ⟨Lawful.entries_snd path s, rfl⟩

theorem looks_kind? (path : FilePath) : Looks s (kind? path) (· = kindIn? s path) :=
  ⟨Lawful.kind?_snd path s, rfl⟩

theorem looks_isThere (path : FilePath) : Looks s (isThere path) (· = isThereIn s path) :=
  ⟨Lawful.isThere_snd path s, rfl⟩

theorem looks_isDirectory (path : FilePath) :
    Looks s (isDirectory path) (· = (kindIn? s path == some .directory)) :=
  (looks_kind? path).bind fun kind hkind => .pure (by rw [hkind])

end FileAccess

-- ════════════════════════════════════════════════════════════════════════
-- Files as data
-- ════════════════════════════════════════════════════════════════════════

namespace Disk

variable {d : Disk} {path : FilePath}

/-- A path that leads somewhere is not too long. -/
theorem size_le_of_locate {place : List String} (h : d.locate path = .ok place) :
    path.text.utf8ByteSize ≤ FileAccess.pathLimit := by
  unfold locate ensureUsable ensureFits at h
  split at h
  · cases h
  · split at h
    · next hfits => exact hfits
    · cases h

/-- A directory that is listed has been found, and only names are listed. -/
theorem found_of_entries {listed : List DirectoryEntry} (h : d.entries path = .ok listed) :
    (∃ place, d.locate path = .ok place) ∧ ∀ e ∈ listed, FilePath.isName e.name = true := by
  unfold entries at h
  split at h
  · cases h
  · next es hfind =>
    obtain rfl := Except.ok.inj h
    constructor
    · unfold find at hfind
      split at hfind
      · cases hfind
      · next place hlocate => exact ⟨place, hlocate⟩
    · exact List.forall_mem_map.mpr fun e he => (List.mem_filter.mp he).2
  · cases h

instance : FileAccess.Lawful Disk where
  read_snd _ _ := rfl
  entries_snd _ _ := rfl
  kind?_snd _ _ := rfl
  isThere_snd _ _ := rfl
  size_le h := by
    obtain ⟨⟨place, hlocate⟩, -⟩ := found_of_entries h
    exact size_le_of_locate hlocate
  isName h := (found_of_entries h).2

end Disk

end Conform
