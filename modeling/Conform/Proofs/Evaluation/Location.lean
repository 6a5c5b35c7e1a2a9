import Conform.Proofs.Evaluation.Culprit
import Conform.Proofs.Evaluation.SideBySide

/-!
# Evaluation at another place

Without guards an evaluation cannot see where it takes place. At a path and a depth it ends as it
would on its own, under the limit that is left there: the places that its failures are about are
moved under that path, and all else stays as it is. A guard that asks about a value is told what a
check of the value alone would tell, moved under the place of the request.

## Main definitions

- `Failure.movedUnder` — a failure of a check on its own, as it shows at another place
- `Validator.limitedTo` — the same settings with another limit
- `Likeness.elsewhere` — a run at a place beside one on its own

## Main results

- `Validator.evaluation_moves` — both modes at any place, and the requests of a guard
-/

namespace Conform

/-- A fault of a check on its own, as it shows under a path and a limit. -/
def Fault.movedUnder (base : Path) (limit : Nat) : Fault → Fault
  | guard cause contexts => guard cause contexts
  | depthExceeded path _ => depthExceeded (base.extend path.keys) limit

def Report.movedUnder (base : Path) (r : Report) : Report :=
  { r with path := base.extend r.path.keys }

/-- A failure of a check on its own, as it shows under a path and a limit. -/
def Failure.movedUnder (base : Path) (limit : Nat) : Failure → Failure
  | invalidType r => invalidType (r.movedUnder base)
  | missingProperty r => missingProperty (r.movedUnder base)
  | fault f => fault (f.movedUnder base limit)

theorem Failure.isVerdict_movedUnder (base : Path) (limit : Nat) (f : Failure) :
    (f.movedUnder base limit).isVerdict = f.isVerdict := by
  cases f <;> rfl

theorem Path.extend_child (base p : Path) (key : PropertyKey) :
    base.extend (p.child key).keys = (base.extend p.keys).child key := by
  simp only [extend, child, List.append_assoc]

/-- The verdict behind an outcome that is moved is the verdict behind it, with its fault moved. -/
theorem Scope.verdictOf_mapError_movedUnder (base : Path) (limit : Nat)
    (outcome : Except Failure Bool) :
    verdictOf (outcome.mapError (Failure.movedUnder base limit)) =
      (verdictOf outcome).mapError (Fault.movedUnder base limit) := by
  cases outcome with
  | ok verdict => rfl
  | error f => cases f <;> rfl

namespace Validator

def limitedTo (va : Validator) (limit : Nat) : Validator := { va with maxDepth := limit }

end Validator

-- ════════════════════════════════════════════════════════════════════════
-- The two runs
-- ════════════════════════════════════════════════════════════════════════

/-- A run at a place beside one on its own: the same values and descriptors, and each path is that
    of the other run moved under the place. -/
def Likeness.elsewhere (va va' : Validator) (base : Path) : Likeness va va' where
  symbol := Eq
  key := Eq
  value := Eq
  descriptor d e := d = e ∧ d.GuardFree
  path p q := p = base.extend q.keys
  failure f g := f = g.movedUnder base va.maxDepth
  kind := congrArg Value.kind
  asSymbol? := by
    rintro v _ s _ rfl rfl
    exact Iff.rfl
  asArray? := by
    rintro v _ rfl
    cases v.asArray? with
    | none => exact .none
    | some items => exact .some (List.forall₂_refl items)
  get? := by
    rintro v _ key _ rfl rfl
    cases v.get? key with
    | none => exact .none
    | some property => exact .some rfl
  form := @Descriptor.sameForm_of_eq
  index := PropertyKey.index_eq_self
  child := by
    rintro _ q key _ rfl rfl
    exact (base.extend_child q key).symm
  wrongType := by
    rintro _ q d _ v _ rfl ⟨rfl, -⟩ rfl
    rfl
  absent := by
    rintro _ q d _ rfl ⟨rfl, -⟩
    rfl
  depthExceeded := by
    rintro _ q rfl
    rfl
  isVerdict := by
    rintro _ g rfl
    exact g.isVerdict_movedUnder base va.maxDepth

namespace Validator

variable {va : Validator} {d : Descriptor} {depth : Nat}

theorem assert_elsewhere (hfree : d.GuardFree) (hdepth : depth ≤ va.maxDepth) (v : Value)
    (path : Path) :
    ((va.levelAt depth).assert v d path).outcome =
      ((va.limitedTo (va.maxDepth - depth)).assert v d).outcome.mapError
        (.movedUnder path va.maxDepth) := by
  have hleft : (va.limitedTo (va.maxDepth - depth)).maxDepth + 1 - 0 = va.maxDepth + 1 - depth := by
    simp only [limitedTo]
    omega
  have hroot : path = path.extend Path.root.keys := path.extend_nil.symm
  have hsame := (Likeness.elsewhere va (va.limitedTo (va.maxDepth - depth)) path).sameEnd_level
    (va.maxDepth + 1 - depth) (v := v) rfl ⟨rfl, hfree⟩ hroot
  rw [assert, levelAt, levelAt, hleft]
  exact hsame.eq_mapError

/-- The same for predicate mode, since assert mode tells its answer. -/
theorem accepts_elsewhere (hfree : d.GuardFree) (hdepth : depth ≤ va.maxDepth) (v : Value)
    (path : Path) :
    ((va.levelAt depth).accepts v d path).outcome =
      ((va.limitedTo (va.maxDepth - depth)).accepts v d).outcome.mapError
        (.movedUnder path va.maxDepth) := by
  have hplace := (va.level_agrees (va.maxDepth + 1 - depth) v d path).outcome_eq
  have halone := ((va.limitedTo (va.maxDepth - depth)).agree_whole v d).outcome_eq
  have hassert := assert_elsewhere hfree hdepth v path
  rw [levelAt] at hassert ⊢
  rw [hplace, halone, hassert, ← Scope.verdictOf_mapError_movedUnder]
  congr 1
  cases ((va.limitedTo (va.maxDepth - depth)).assert v d).outcome <;> rfl

/-- Both modes, at any place within the limit, end as a check of the value alone under the limit
    that is left there, moved under the place. So do the requests of a guard that is called at the
    place; they go one level down, and at the last level they are faults. -/
theorem evaluation_moves (hfree : d.GuardFree) (hdepth : depth ≤ va.maxDepth) (v : Value)
    (path : Path) :
    (((va.levelAt depth).assert v d path).outcome =
        ((va.limitedTo (va.maxDepth - depth)).assert v d).outcome.mapError
          (.movedUnder path va.maxDepth) ∧
      ((va.levelAt depth).accepts v d path).outcome =
        ((va.limitedTo (va.maxDepth - depth)).accepts v d).outcome.mapError
          (.movedUnder path va.maxDepth)) ∧
    ∀ target, (va.scopeAt path depth).resolve target = .ok d →
      (depth < va.maxDepth →
        (∀ key, ((va.scopeAt path depth).check key v target).outcome =
          ((va.limitedTo (va.maxDepth - (depth + 1))).assert v d).outcome.mapError
            (.movedUnder ((va.scopeAt path depth).place key) va.maxDepth)) ∧
        ((va.scopeAt path depth).conforms v target).outcome =
          ((va.limitedTo (va.maxDepth - (depth + 1))).accepts v d).outcome.mapError
            (.movedUnder path va.maxDepth)) ∧
      (depth = va.maxDepth →
        (∀ key, ((va.scopeAt path depth).check key v target).outcome =
          .error (.fault (.depthExceeded ((va.scopeAt path depth).place key) va.maxDepth))) ∧
        ((va.scopeAt path depth).conforms v target).outcome =
          .error (.depthExceeded path va.maxDepth)) := by
  refine ⟨⟨assert_elsewhere hfree hdepth v path, accepts_elsewhere hfree hdepth v path⟩, ?_⟩
  intro target hresolve
  have hcheck (key : Option PropertyKey) : (va.scopeAt path depth).check key v target =
      (va.levelAt (depth + 1)).assert v d ((va.scopeAt path depth).place key) := by
    rw [Scope.check, hresolve]
    rfl
  have hconforms : (va.scopeAt path depth).conforms v target =
      (va.levelAt (depth + 1)).accepts v d path := by
    rw [Scope.conforms, hresolve]
    rfl
  simp only [hcheck, hconforms]
  constructor
  · intro hless
    exact ⟨fun key => assert_elsewhere hfree hless v _, accepts_elsewhere hfree hless v path⟩
  · intro hlast
    have hbeyond : va.levelAt (depth + 1) = va.level 0 := levelAt_of_lt (by omega)
    rw [hbeyond]
    exact ⟨fun key => rfl, rfl⟩

/-- At depth one of two, under a key, the second item is no text; what a guard asks at that place
    about the same list is cut off at the first item. -/
theorem evaluation_moves_names :
    (Descriptor.arrayOf (.primitive .string)).GuardFree ∧
    1 ≤ (⟨2, fun _ => none⟩ : Validator).maxDepth ∧
    ((levelAt ⟨2, fun _ => none⟩ 1).assert (.array [.string "a", .null])
        (.arrayOf (.primitive .string)) ⟨[.string "names"]⟩).outcome =
      .error (.invalidType ⟨⟨[.string "names", .index 1]⟩, "string", some "null"⟩) ∧
    ((scopeAt ⟨2, fun _ => none⟩ ⟨[.string "names"]⟩ 1).check (some (.string "first"))
        (.array [.string "a", .null]) (.inline (.arrayOf (.primitive .string)))).outcome =
      .error (.fault (.depthExceeded ⟨[.string "names", .string "first", .index 0]⟩ 2)) := by
  have hfree : (Descriptor.arrayOf (.primitive .string)).GuardFree := by
    simp [Descriptor.GuardFree]
  have hdepth : 1 ≤ (⟨2, fun _ => none⟩ : Validator).maxDepth := by decide
  obtain ⟨⟨hassert, -⟩, hrequests⟩ :=
    evaluation_moves hfree hdepth (.array [.string "a", .null]) ⟨[.string "names"]⟩
  obtain ⟨hwithin, -⟩ := hrequests (.inline (.arrayOf (.primitive .string))) rfl
  exact ⟨hfree, hdepth, hassert.trans rfl, ((hwithin (by decide)).1 _).trans rfl⟩

end Validator

end Conform
