import Conform.Command.FileReport
import Conform.Proofs.Json.Printed

/-!
# Entries of a report

An entry of the report tells how far the check of one file came: whether it was read, whether it
holds a document, whether the pointer selects a part of it, and whether that part is a set of render
options. It depends on the path of the file and on what reading the file gives, and on nothing else.

## Main definitions

- `Finding` — what an entry tells about a file
- `Finds` — what there is to tell, stage by stage
- `FileReport.ofReading` — the report about a file by what reading it gives
- `FileReport.Shows` — what is to be seen in an entry

## Main results

- `FileReport.shows_ofReading_iff` — an entry tells what there is to tell
- `FileReport.read_render_json` — a report in JSON is read back entry by entry
-/

namespace Conform.Command

-- ════════════════════════════════════════════════════════════════════════
-- What there is to tell
-- ════════════════════════════════════════════════════════════════════════

/-- What an entry tells about a file. -/
structure Finding where
  /-- Whether the document was accepted. -/
  ok : Bool
  /-- The kind of a failure. -/
  kind : Option String := none
  /-- The rejected place. -/
  path : Option String := none
  /-- What was expected there. -/
  expected : Option String := none
  /-- What was found there. -/
  received : Option String := none
deriving DecidableEq

namespace Finding

/-- The document was accepted. -/
def passed : Finding := { ok := true }

/-- There is no report about the document. -/
def failed (kind : String) : Finding := { ok := false, kind := some kind }

/-- The document was rejected with a report. -/
def rejected (kind : String) (r : Report) : Finding where
  ok := false
  kind := some kind
  path := some r.pathText
  expected := some r.expected
  received := r.received

end Finding

/-- The part of a document that is checked: all of it, or what a pointer selects. -/
def selected (pointer : Option String) (document : Json) : Option Json :=
  match pointer with
  | none => some document
  | some p => document.at? p

/-- What there is to tell about a file, given what reading it gives. -/
inductive Finds (va : Validator) (pointer : Option String) :
    Except FileError (List UInt8) → Finding → Prop where
  | unread {e : FileError} : Finds va pointer (.error e) (.failed "load")
  | unparsed {bytes : List UInt8} {e : Json.PathError} (parse : Json.read bytes = .error e) :
      Finds va pointer (.ok bytes) (.failed "load")
  | unselected {bytes : List UInt8} {document : Json} (parse : Json.read bytes = .ok document)
      (select : selected pointer document = none) :
      Finds va pointer (.ok bytes) (.failed "pointer")
  | accepted {bytes : List UInt8} {document part : Json} {options : RenderOptions}
      (parse : Json.read bytes = .ok document) (select : selected pointer document = some part)
      (validate : (RenderOptions.validate va (.ofJson part)).outcome = .ok options) :
      Finds va pointer (.ok bytes) .passed
  | invalid {bytes : List UInt8} {document part : Json} {r : Report}
      (parse : Json.read bytes = .ok document) (select : selected pointer document = some part)
      (validate : (RenderOptions.validate va (.ofJson part)).outcome = .error (.invalidOption r)) :
      Finds va pointer (.ok bytes) (.rejected "invalid" r)
  | missing {bytes : List UInt8} {document part : Json} {r : Report}
      (parse : Json.read bytes = .ok document) (select : selected pointer document = some part)
      (validate : (RenderOptions.validate va (.ofJson part)).outcome = .error (.missingOption r)) :
      Finds va pointer (.ok bytes) (.rejected "missing" r)
  | fault {bytes : List UInt8} {document part : Json} {f : Fault}
      (parse : Json.read bytes = .ok document) (select : selected pointer document = some part)
      (validate : (RenderOptions.validate va (.ofJson part)).outcome = .error (.fault f)) :
      Finds va pointer (.ok bytes) (.failed "fault")

variable {va : Validator} {pointer : Option String} {reading : Except FileError (List UInt8)}

/-- There is one thing to tell about a file. -/
theorem Finds.unique {f f' : Finding} (h : Finds va pointer reading f)
    (h' : Finds va pointer reading f') : f = f' := by
  cases h <;> cases h' <;> simp_all

namespace Verdict

/-- What a verdict tells. -/
def finding (v : Verdict) : Finding where
  ok := v.isAccepted
  kind := v.kind?
  path := v.report?.map Report.pathText
  expected := v.report?.map Report.expected
  received := v.report?.bind Report.received

theorem finding_eq_passed_iff {v : Verdict} : v.finding = .passed ↔ v.isAccepted = true := by
  constructor
  · exact congrArg Finding.ok
  · intro h
    cases v with
    | accepted options => rfl
    | _ => cases h

/-- What the bytes of a file come to is what there is to tell. -/
theorem finds_ofBytes (va : Validator) (file : String) (pointer : Option String)
    (bytes : List UInt8) :
    Finds va pointer (.ok bytes) (ofBytes va file pointer bytes).1.finding := by
  have hread : Document.read bytes pointer =
      (Json.read bytes).map fun document => (selected pointer document).map Value.ofJson := by
    rw [Document.read]
    cases pointer <;> rfl
  rw [ofBytes, hread]
  cases hparse : Json.read bytes with
  | error e => exact .unparsed hparse
  | ok document =>
    cases hselect : selected pointer document with
    | none =>
      simp only [Except.map, Option.map_none, hselect]
      exact .unselected hparse hselect
    | some part =>
      simp only [Except.map, Option.map_some, hselect]
      cases hvalidate : (RenderOptions.validate va (.ofJson part)).outcome with
      | ok options => exact .accepted hparse hselect hvalidate
      | error e =>
        cases e with
        | invalidOption r => exact .invalid hparse hselect hvalidate
        | missingOption r => exact .missing hparse hselect hvalidate
        | fault f => exact .fault hparse hselect hvalidate

end Verdict

namespace FileReport

-- ════════════════════════════════════════════════════════════════════════
-- What is to be seen
-- ════════════════════════════════════════════════════════════════════════

/-- The report about a file by what reading it gives. -/
def ofReading (va : Validator) (pointer : Option String) (path : FilePath) :
    Except FileError (List UInt8) → FileReport
  | .error e => ⟨path.text, .unread e⟩
  | .ok bytes => ⟨path.text, (Verdict.ofBytes va path.text pointer bytes).1⟩

/-- What is to be seen in an entry: the members of its object in JSON, and its line in text. -/
structure Shows (r : FileReport) (file : String) (f : Finding) : Prop where
  file_eq : r.json.step? "file" = some (.str file)
  ok_eq : r.json.step? "ok" = some (.bool f.ok)
  kind_eq : r.json.step? "kind" = f.kind.map .str
  path_eq : r.json.step? "path" = f.path.map .str
  expected_eq : r.json.step? "expected" = f.expected.map .str
  received_eq : r.json.step? "received" = f.received.map .str
  line_eq (colored : Bool) :
    if f.ok then r.line colored = Emphasis.green.paintIf colored "✓" ++ " " ++ file
    else ∃ message, r.line colored =
      Emphasis.red.paintIf colored "✗" ++ " " ++ Emphasis.strong.paintIf colored file ++ ": " ++
        message

variable {r : FileReport}

/-- An entry tells one thing about one file. -/
theorem Shows.unique {file file' : String} {f f' : Finding} (h : r.Shows file f)
    (h' : r.Shows file' f') : file = file' ∧ f = f' := by
  have hinj : Function.Injective (Option.map Json.str) :=
    Option.map_injective fun _ _ => Json.str.inj
  obtain ⟨ok, kind, path, expected, received⟩ := f
  obtain ⟨ok', kind', path', expected', received'⟩ := f'
  obtain rfl : ok = ok' := Json.bool.inj (Option.some.inj (h.ok_eq.symm.trans h'.ok_eq))
  obtain rfl : kind = kind' := hinj (h.kind_eq.symm.trans h'.kind_eq)
  obtain rfl : path = path' := hinj (h.path_eq.symm.trans h'.path_eq)
  obtain rfl : expected = expected' := hinj (h.expected_eq.symm.trans h'.expected_eq)
  obtain rfl : received = received' := hinj (h.received_eq.symm.trans h'.received_eq)
  exact ⟨Json.str.inj (Option.some.inj (h.file_eq.symm.trans h'.file_eq)), rfl⟩

theorem lookup_cons_ite (key name : String) (item : Json) (members : List (String × Json)) :
    ((key, item) :: members).lookup name =
      if name = key then some item else members.lookup name := by
  by_cases hname : name = key
  · rw [List.lookup_cons, beq_iff_eq.mpr hname, if_pos hname]
  · rw [List.lookup_cons, beq_false_of_ne hname, if_neg hname]

/-- A member that may be left out is found under its own name only. -/
theorem lookup_member? (key name : String) (value : Option String) :
    (member? key value).lookup name = if name = key then value.map Json.str else none := by
  cases value with
  | none => exact (ite_self none).symm
  | some s => exact lookup_cons_ite key name (.str s) []

/-- The member of an entry under a name. -/
theorem step?_json (r : FileReport) (name : String) : r.json.step? name =
    if name = "file" then some (.str r.file)
    else if name = "ok" then some (.bool r.verdict.isAccepted)
    else if name = "kind" then r.verdict.kind?.map .str
    else if name = "path" then r.verdict.finding.path.map .str
    else if name = "expected" then r.verdict.finding.expected.map .str
    else if name = "received" then r.verdict.finding.received.map .str
    else if name = "message" then r.message?.map .str
    else none := by
  simp only [json, Json.step?, List.lookup_append, lookup_member?, lookup_cons_ite,
    List.lookup_nil]
  repeat' split
  all_goals simp_all [Verdict.finding]

/-- An entry shows what its verdict tells. -/
theorem shows_finding (r : FileReport) : r.Shows r.file r.verdict.finding where
  file_eq := step?_json r "file"
  ok_eq := step?_json r "ok"
  kind_eq := step?_json r "kind"
  path_eq := step?_json r "path"
  expected_eq := step?_json r "expected"
  received_eq := step?_json r "received"
  line_eq colored := by
    obtain ⟨file, verdict⟩ := r
    cases verdict with
    | accepted options => rfl
    | _ => exact ⟨_, rfl⟩

/-- The verdict in a report tells what there is to tell. -/
theorem finds_ofReading (va : Validator) (pointer : Option String) (path : FilePath)
    (reading : Except FileError (List UInt8)) :
    Finds va pointer reading (ofReading va pointer path reading).verdict.finding := by
  cases reading with
  | error e => exact .unread
  | ok bytes => exact Verdict.finds_ofBytes va path.text pointer bytes

/-- An entry shows what there is to tell about its file. -/
theorem shows_ofReading_iff (va : Validator) (pointer : Option String) (path : FilePath)
    (reading : Except FileError (List UInt8)) (f : Finding) :
    (ofReading va pointer path reading).Shows path.text f ↔ Finds va pointer reading f := by
  have hshows := shows_finding (ofReading va pointer path reading)
  have hfinds := finds_ofReading va pointer path reading
  have hfile : (ofReading va pointer path reading).file = path.text := by cases reading <;> rfl
  rw [hfile] at hshows
  constructor
  · intro h
    exact (h.unique hshows).2 ▸ hfinds
  · intro h
    exact h.unique hfinds ▸ hshows

-- ════════════════════════════════════════════════════════════════════════
-- Reports in JSON
-- ════════════════════════════════════════════════════════════════════════

theorem map_fst_member?_sublist (key : String) (value : Option String) :
    ((member? key value).map Prod.fst).Sublist [key] := by
  cases value with
  | none => exact List.nil_sublist [key]
  | some s => exact List.Sublist.refl [key]

theorem eq_str_of_mem_member? {key : String} {value : Option String} {m : String × Json}
    (h : m ∈ member? key value) : ∃ s, m.2 = .str s := by
  obtain ⟨s, -, rfl⟩ := Option.map_eq_some_iff.mp (Option.mem_toList.mp h)
  exact ⟨s, rfl⟩

/-- An entry is a flat object without repeated keys. -/
theorem json_eq_obj (r : FileReport) : ∃ members, r.json = .obj members ∧
    (members.map Prod.fst).Nodup ∧ ∀ m ∈ members, (∃ b, m.2 = .bool b) ∨ ∃ s, m.2 = .str s := by
  refine ⟨_, rfl, ?_, ?_⟩
  · have hkeys : ["file", "ok", "kind", "path", "expected", "received", "message"].Nodup := by
      decide
    have hfirst := List.Sublist.refl ["file", "ok"]
    refine hkeys.sublist ?_
    simp only [List.map_append]
    exact ((((hfirst.append (map_fst_member?_sublist "kind" _)).append
      (map_fst_member?_sublist "path" _)).append
      (map_fst_member?_sublist "expected" _)).append
      (map_fst_member?_sublist "received" _)).append
      (map_fst_member?_sublist "message" _)
  · intro m hm
    simp only [List.mem_append, List.mem_cons, List.not_mem_nil, or_false] at hm
    rcases hm with (((((rfl | rfl) | hm) | hm) | hm) | hm) | hm
    · exact .inr ⟨r.file, rfl⟩
    · exact .inl ⟨r.verdict.isAccepted, rfl⟩
    all_goals exact .inr (eq_str_of_mem_member? hm)

theorem numberFree_json (r : FileReport) {levels : Nat} : Json.NumberFree (levels + 1) r.json := by
  obtain ⟨members, hjson, -, hitems⟩ := r.json_eq_obj
  rw [hjson]
  refine .obj fun m hm => ?_
  obtain ⟨b, hb⟩ | ⟨s, hs⟩ := hitems m hm
  · exact hb ▸ .bool b
  · exact hs ▸ .str s

theorem distinct_json (r : FileReport) : r.json.Distinct := by
  obtain ⟨members, hjson, hkeys, hitems⟩ := r.json_eq_obj
  rw [hjson]
  refine .obj hkeys fun m hm => ?_
  obtain ⟨b, hb⟩ | ⟨s, hs⟩ := hitems m hm
  · exact hb ▸ .bool b
  · exact hs ▸ .str s

/-- A report in JSON, with the line break at its end, is read back entry by entry. -/
theorem read_render_json (colored : Bool) (reports : List FileReport) :
    Json.read (Utf8.encode (render .json colored reports ++ "\n")) =
      .ok (.arr (reports.map json)) := by
  have hfree : Json.NumberFree (Json.nestingLimit - 1) (.arr (reports.map json)) :=
    .arr (List.forall_mem_map.mpr fun r _ => r.numberFree_json)
  have hdistinct : (Json.arr (reports.map json)).Distinct :=
    .arr (List.forall_mem_map.mpr fun r _ => r.distinct_json)
  rw [Utf8.encode_append]
  exact Json.read_pretty_append hfree hdistinct (List.forall_mem_singleton.mpr rfl)

end FileReport

end Conform.Command
