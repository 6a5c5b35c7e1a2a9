import Conform.Command.Run
import Conform.Proofs.Command.Arguments
import Conform.Proofs.Command.FileReport
import Conform.Proofs.Files.Expansion

/-!
# Runs of the command

A run that checks documents looks at its inputs first. If one of them cannot be resolved, wherever
it stands, the run is broken off before anything is written but the reason. Otherwise the report has
an entry for every file, in the order of the inputs, which tells what there is to tell about that
file and nothing about another; and the exit code says whether all of them passed, unless the report
cannot be written. A run that has to write a text to a stream which refuses it ends with an exit
code of its own.

## Main definitions

- `Puts` — what becomes of a text that has to be written to a stream
- `Unresolved`, `Resolves` — what inputs stand for
- `CheckRequest.FindsIn`, `CheckRequest.Covers` — an entry that tells about a file
- `Holds` — a text that is made of entries
- `Delivery` — what becomes of a report
- `Settles` — the exit code that a report stands for
- `AllOrNothing`, `Ends` — how a run that checks documents ends

## Main results

- `looks_resolve` — all inputs are resolved, or one of them cannot be
- `looks_checks` — every file is checked on its own
- `delivery_of_deliver` — a report is written, or the run ends with another exit code
- `run_all_or_nothing` — what a run that checks documents comes to
-/

namespace Conform.Command

open FileAccess (Lawful Looks createDirectories exists_run looks_mapM looks_read readIn run_bind
  run_map)

variable {σ : Type} [FileAccess (StateM σ)] {s s' : σ}

-- ════════════════════════════════════════════════════════════════════════
-- Writing to a stream
-- ════════════════════════════════════════════════════════════════════════

/-- What becomes of a text that has to be written, from one state to another: it is behind what has
    been written so far, or else the run breaks down, and no more than the reason is offered to the
    error output. -/
inductive Puts (s : σ) (stream : Stream) (text : String) (sofar : Outcome) :
    Outcome → σ → Prop where
  | written {s' : σ} (put : (FileAccess.put stream text : StateM σ _) s = (.ok (), s')) :
      Puts s stream text sofar (sofar.wrote text stream) s'
  | refused {e : FileError} {refused s' : σ} {told : Except FileError Unit} {errors : String}
      (put : (FileAccess.put stream text : StateM σ _) s = (.error e, refused))
      (tell : (FileAccess.put .errors (refusalLine stream e) : StateM σ _) refused = (told, s')) :
      Puts s stream text sofar ⟨breakdown, sofar.output, errors⟩ s'

variable {stream : Stream} {text : String} {sofar outcome : Outcome}

/-- What is offered to the error output changes nothing but what is recorded of it. -/
theorem offer_errors (text : String) (sofar : Outcome) (s : σ) : ∃ told s' errors,
    (FileAccess.put .errors text : StateM σ _) s = (told, s') ∧
      (offer .errors text sofar : StateM σ _) s = (⟨sofar.exitCode, sofar.output, errors⟩, s') := by
  obtain ⟨told, s', hput⟩ := exists_run (FileAccess.put .errors text : StateM σ _) s
  unfold offer
  rw [run_bind hput]
  cases told with
  | ok _ => exact ⟨_, _, _, hput, rfl⟩
  | error e => exact ⟨_, _, _, hput, rfl⟩

/-- A text is written, or the run breaks down. -/
theorem put_cases (s : σ) (stream : Stream) (text : String) (sofar : Outcome) : ∃ outcome s',
    Puts s stream text sofar outcome s' ∧
      ((put stream text sofar : StateM σ _) s = (.ok outcome, s') ∧
          outcome = sofar.wrote text stream ∨
        (put stream text sofar : StateM σ _) s = (.error outcome, s') ∧
          outcome.exitCode = breakdown ∧ outcome.output = sofar.output) := by
  obtain ⟨result, written, hput⟩ := exists_run (FileAccess.put stream text : StateM σ _) s
  unfold put
  rw [run_bind hput]
  cases result with
  | ok _ => exact ⟨_, _, .written hput, .inl ⟨rfl, rfl⟩⟩
  | error e =>
    obtain ⟨told, s', errors, htell, hoffer⟩ :=
      offer_errors (refusalLine stream e) { sofar with exitCode := breakdown } written
    exact ⟨⟨breakdown, sofar.output, errors⟩, s', .refused hput htell,
      .inr ⟨run_map hoffer, rfl, rfl⟩⟩

theorem puts_of_putLast (h : (putLast stream text sofar : StateM σ _) s = (outcome, s')) :
    Puts s stream text sofar outcome s' := by
  obtain ⟨outcome', s'', hputs, ⟨hput, -⟩ | ⟨hput, -⟩⟩ := put_cases s stream text sofar
  all_goals
    unfold putLast at h
    rw [run_bind hput] at h
    obtain ⟨rfl, rfl⟩ := Prod.mk.inj h
    exact hputs

/-- Texts for the error output are written, or the run breaks down; neither writes anything to the
    output. -/
theorem putAll_errors (texts : List String) (sofar : Outcome) (s : σ) : ∃ result s',
    (putAll .errors texts sofar : StateM σ _) s = (result, s') ∧
      match result with
      | .ok outcome => outcome.output = sofar.output
      | .error broken => broken.exitCode = breakdown ∧ broken.output = sofar.output := by
  induction texts generalizing sofar s with
  | nil => exact ⟨_, _, rfl, rfl⟩
  | cons text texts ih =>
    unfold putAll
    obtain ⟨outcome, s', -, ⟨hput, rfl⟩ | ⟨hput, hbroken⟩⟩ := put_cases s .errors text sofar
    · rw [run_bind hput]
      exact ih (sofar.wrote text .errors) s'
    · rw [run_bind hput]
      exact ⟨_, _, rfl, hbroken⟩

/-- Texts that are offered to the error output change nothing but what is recorded of it. -/
theorem offerAll_errors (texts : List String) (sofar : Outcome) (s : σ) : ∃ errors s',
    (offerAll .errors texts sofar : StateM σ _) s =
      (⟨sofar.exitCode, sofar.output, errors⟩, s') := by
  induction texts generalizing sofar s with
  | nil => exact ⟨_, _, rfl⟩
  | cons text texts ih =>
    obtain ⟨told, s', errors, -, hoffer⟩ := offer_errors text sofar s
    unfold offerAll
    rw [run_bind hoffer]
    exact ih _ s'

-- ════════════════════════════════════════════════════════════════════════
-- Resolving the inputs
-- ════════════════════════════════════════════════════════════════════════

/-- Inputs that cannot be resolved. -/
inductive Unresolved (s : σ) (input : String) : Prop where
  | malformed (pattern : isPattern input = true) (malformed : Glob.Malformed input)
  | unreadable {directory : FilePath} {refusal : FileError} (pattern : isPattern input = true)
      (heldUp : Glob.HeldUp s input directory refusal)
  | unmatched (pattern : isPattern input = true) (none : ∀ path, ¬ Glob.StandsFor s input path)

/-- The files that an input stands for: a pattern for those that it is expanded to, of which there
    is one at least, and any other input for the file at this path, whether it is there or not. -/
inductive Resolves (s : σ) (input : String) : List FilePath → Prop where
  | literal (pattern : isPattern input = false) : Resolves s input [⟨input⟩]
  | pattern {paths : List FilePath} (pattern : isPattern input = true)
      (expand : (Glob.expand input : StateM σ _) s = (.ok paths, s)) (some : paths ≠ [])
      (mem_iff : ∀ path, path ∈ paths ↔ Glob.StandsFor s input path) : Resolves s input paths

/-- The files are those that the inputs stand for, or else one of the inputs cannot be resolved. -/
def Resolution (s : σ) (inputs : List String) : Except RunError (List FilePath) → Prop
  | .ok paths => ∃ found, List.Forall₂ (Resolves s) inputs found ∧ paths = found.flatten
  | .error _ => ∃ input ∈ inputs, Unresolved s input

/-- What is not a pattern can be resolved. -/
theorem not_unresolved_of_literal {input : String} (h : isPattern input = false) :
    ¬ Unresolved s input := by
  rintro (⟨hpattern, -⟩ | ⟨hpattern, -⟩ | ⟨hpattern, -⟩) <;> exact nomatch h ▸ hpattern

section

variable [Lawful σ]

/-- An input that stands for files can be resolved. -/
theorem Resolves.not_unresolved {input : String} {paths : List FilePath}
    (h : Resolves s input paths) : ¬ Unresolved s input := by
  cases h with
  | literal hliteral => exact not_unresolved_of_literal hliteral
  | pattern _ hexpand hsome hmem =>
    intro hunresolved
    have hreadable : ¬ Glob.Malformed input := by
      intro hmalformed
      obtain ⟨e, he⟩ := (Glob.looks_expand_of_malformed (s := s) hmalformed).answer
      exact nomatch he.symm.trans (congrArg Prod.fst hexpand)
    have hexact := (Glob.looks_expand_of_not_malformed (s := s) hreadable).answer
    rw [hexpand] at hexact
    cases hunresolved with
    | malformed _ hmalformed => exact hreadable hmalformed
    | unreadable _ hheldUp => exact hexact.2 _ _ hheldUp
    | unmatched _ hnone =>
      obtain ⟨path, hpath⟩ := List.exists_mem_of_ne_nil paths hsome
      exact hnone path ((hmem path).mp hpath)

/-- Inputs that all stand for files can all be resolved. -/
theorem forall_not_unresolved {inputs : List String} {found : List (List FilePath)}
    (h : List.Forall₂ (Resolves s) inputs found) : ∀ input ∈ inputs, ¬ Unresolved s input := by
  induction h with
  | nil => exact nofun
  | cons hinput _ ih => exact List.forall_mem_cons.mpr ⟨hinput.not_unresolved, ih⟩

theorem looks_resolveInput (input : String) : Looks s (resolveInput input) fun
    | .ok paths => Resolves s input paths
    | .error _ => Unresolved s input := by
  unfold resolveInput
  split
  · next hpattern =>
    by_cases hmalformed : Glob.Malformed input
    · refine (Glob.looks_expand_of_malformed hmalformed).bind ?_
      rintro _ ⟨e, rfl⟩
      exact .pure (.malformed hpattern hmalformed)
    · refine (Glob.looks_expand_of_not_malformed hmalformed).run_eq.bind ?_
      rintro found ⟨hfound, hexpand⟩
      match found with
      | .error (.unreadable directory refusal) => exact .pure (.unreadable hpattern hfound)
      | .error (.pattern _) => exact hfound.elim
      | .ok [] => exact .pure (.unmatched hpattern fun path h => nomatch (hfound.1 path).mpr h)
      | .ok (path :: paths) => exact .pure (.pattern hpattern hexpand nofun hfound.1)
  · next hliteral => exact .pure (.literal (Bool.eq_false_iff.mpr hliteral))

/-- All inputs are resolved, or one of them cannot be. -/
theorem looks_resolve (inputs : List String) :
    Looks s (resolve inputs) (Resolution s inputs) := by
  induction inputs with
  | nil => exact .pure ⟨[], .nil, rfl⟩
  | cons input inputs ih =>
    rw [resolve]
    refine (looks_resolveInput input).bind fun resolved hresolved => ?_
    match resolved with
    | .error e => exact .pure ⟨input, List.mem_cons_self, hresolved⟩
    | .ok paths =>
      refine ih.bind fun others hothers => .pure ?_
      match others with
      | .error e =>
        obtain ⟨unresolved, hmem, h⟩ := hothers
        exact ⟨unresolved, List.mem_cons_of_mem input hmem, h⟩
      | .ok rest =>
        obtain ⟨found, hfound, rfl⟩ := hothers
        exact ⟨paths :: found, .cons hresolved hfound, rfl⟩

end

-- ════════════════════════════════════════════════════════════════════════
-- Checking the files
-- ════════════════════════════════════════════════════════════════════════

/-- What there is to tell about the file at a path. -/
def CheckRequest.FindsIn (request : CheckRequest) (s : σ) (path : FilePath) : Finding → Prop :=
  Finds { maxDepth := request.maxDepth } request.pointer (readIn s path)

/-- An entry covers a file if it is the report about it and tells what there is to tell. It depends
    on what reading this file gives, and on no other file. -/
structure CheckRequest.Covers (request : CheckRequest) (s : σ) (path : FilePath)
    (entry : FileReport) : Prop where
  entry_eq : entry =
    .ofReading { maxDepth := request.maxDepth } request.pointer path (readIn s path)
  shows_iff (f : Finding) : entry.Shows path.text f ↔ request.FindsIn s path f

variable {request : CheckRequest}

/-- An entry says that the document was accepted exactly if that is what there is to tell. -/
theorem CheckRequest.Covers.isAccepted_iff {path : FilePath} {entry : FileReport}
    (h : request.Covers s path entry) :
    entry.verdict.isAccepted = true ↔ request.FindsIn s path .passed := by
  have hfinds := FileReport.finds_ofReading { maxDepth := request.maxDepth } request.pointer path
    (readIn s path)
  rw [← h.entry_eq] at hfinds
  rw [← Verdict.finding_eq_passed_iff]
  exact ⟨fun heq => heq ▸ hfinds, hfinds.unique⟩

/-- All entries say that the document was accepted exactly if all documents passed. -/
theorem forall_passed_iff {paths : List FilePath} {entries : List FileReport}
    (h : List.Forall₂ (request.Covers s) paths entries) :
    (∀ path ∈ paths, request.FindsIn s path .passed) ↔
      entries.all (fun r => r.verdict.isAccepted) = true := by
  induction h with
  | nil => simp
  | cons hcovers _ ih =>
    rw [List.forall_mem_cons, List.all_cons, Bool.and_eq_true, ih, hcovers.isAccepted_iff]

section

variable [Lawful σ]

theorem looks_checkFile (va : Validator) (pointer : Option String) (path : FilePath) :
    Looks s (checkFile va pointer path) fun checked =>
      checked.1 = .ofReading va pointer path (readIn s path) := by
  unfold checkFile
  refine (looks_read path).bind ?_
  rintro _ rfl
  cases readIn s path with
  | error e => exact .pure rfl
  | ok bytes => exact .pure rfl

/-- Every file is checked on its own. -/
theorem looks_checks (request : CheckRequest) (paths : List FilePath) :
    Looks s (paths.mapM (checkFile { maxDepth := request.maxDepth } request.pointer)) fun checks =>
      List.Forall₂ (request.Covers s) paths (checks.map Prod.fst) := by
  refine (looks_mapM fun path _ => looks_checkFile _ _ path).imp fun checks hchecks => ?_
  refine List.forall₂_map_right_iff.mpr (hchecks.imp fun path checked h => ⟨h, fun f => ?_⟩)
  rw [h]
  exact FileReport.shows_ofReading_iff _ _ path _ f

end

-- ════════════════════════════════════════════════════════════════════════
-- Writing the report
-- ════════════════════════════════════════════════════════════════════════

/-- A text that is made of entries: a line each, or a list in JSON. -/
inductive Holds (colored : Bool) (entries : List FileReport) : ReportFormat → String → Prop where
  | text : Holds colored entries .text
      ("\n".intercalate (entries.map (FileReport.line colored)) ++ "\n")
  | json {text : String}
      (read : Json.read (Utf8.encode text) = .ok (.arr (entries.map FileReport.json))) :
      Holds colored entries .json text

theorem holds_render (colored : Bool) (entries : List FileReport) (format : ReportFormat) :
    Holds colored entries format (FileReport.render format colored entries ++ "\n") := by
  cases format with
  | text => exact .text
  | json => exact .json (FileReport.read_render_json colored entries)

/-- The directory that a file is to be in is made, unless that fails. -/
def Prepares (s : σ) (out : String) (outcome : Except FileError Unit) (s' : σ) : Prop :=
  match FilePath.parent? ⟨out⟩ with
  | some parent => (createDirectories parent : StateM σ _) s = (outcome, s')
  | none => outcome = .ok () ∧ s' = s

/-- What becomes of a report, from one state to another. Where the file cannot be written, the run
    is broken off with a message. -/
inductive Delivery (s : σ) (sofar : Outcome) : Option String → String → Outcome → σ → Prop where
  | printed {text : String} {outcome : Outcome} {s' : σ}
      (puts : Puts s .output text sofar outcome s') : Delivery s sofar none text outcome s'
  | noDirectory {out text : String} {e : FileError} {prepared s' : σ} {outcome : Outcome}
      (prepare : Prepares s out (.error e) prepared)
      (puts : Puts prepared .errors (RunError.noDirectory e).line { sofar with exitCode := 2 }
        outcome s') : Delivery s sofar (some out) text outcome s'
  | unwritten {out text : String} {e : FileError} {prepared refused s' : σ} {outcome : Outcome}
      (prepare : Prepares s out (.ok ()) prepared)
      (write : (FileAccess.write ⟨out⟩ (Utf8.encode text) : StateM σ _) prepared =
        (.error e, refused))
      (puts : Puts refused .errors (RunError.unwritten out e).line { sofar with exitCode := 2 }
        outcome s') : Delivery s sofar (some out) text outcome s'
  | written {out text : String} {prepared s' : σ} (prepare : Prepares s out (.ok ()) prepared)
      (write : (FileAccess.write ⟨out⟩ (Utf8.encode text) : StateM σ _) prepared = (.ok (), s')) :
      Delivery s sofar (some out) text sofar s'

theorem exists_prepares (s : σ) (out : String) :
    ∃ outcome prepared, Prepares s out outcome prepared := by
  unfold Prepares
  split
  · exact ⟨_, _, rfl⟩
  · exact ⟨_, _, rfl, rfl⟩

/-- The text is written to the file when the directory has been made. -/
theorem save_of_prepares {out : String} {directory : Except FileError Unit} {prepared : σ}
    (text : String) : Prepares s out directory prepared →
    (save out text : StateM σ _) s = (show StateM σ (Except RunError Unit) from
      match directory with
      | .error e => pure (.error (.noDirectory e))
      | .ok () => do
        match ← FileAccess.write ⟨out⟩ (Utf8.encode text) with
        | .error e => return .error (.unwritten out e)
        | .ok () => return .ok ()) prepared := by
  intro h
  unfold Prepares at h
  unfold save
  dsimp only
  -- without a directory to be made, what is left to do goes on from an answer that is at hand
  split at h
  · next parent hparent =>
    rw [hparent]
    exact run_bind h
  · next hparent =>
    obtain ⟨rfl, rfl⟩ := h
    rw [hparent]
    rfl

/-- A report is delivered with a line break at its end. -/
theorem delivery_of_deliver {out : Option String}
    (h : (deliver out text sofar : StateM σ _) s = (outcome, s')) :
    Delivery s sofar out (text ++ "\n") outcome s' := by
  cases out with
  | none => exact .printed (puts_of_putLast h)
  | some out =>
    obtain ⟨directory, prepared, hprepare⟩ := exists_prepares s out
    have hsave := save_of_prepares (text ++ "\n") hprepare
    unfold deliver at h
    dsimp only at h
    cases directory with
    | error e =>
      rw [run_bind hsave] at h
      exact .noDirectory hprepare (puts_of_putLast h)
    | ok _ =>
      obtain ⟨result, written, hwrite⟩ :=
        exists_run (FileAccess.write ⟨out⟩ (Utf8.encode (text ++ "\n")) : StateM σ _) prepared
      dsimp only at hsave
      rw [run_bind hwrite] at hsave
      cases result with
      | error e =>
        rw [run_bind hsave] at h
        exact .unwritten hprepare hwrite (puts_of_putLast h)
      | ok _ =>
        rw [run_bind hsave] at h
        obtain ⟨rfl, rfl⟩ := Prod.mk.inj h
        exact .written hprepare hwrite

-- ════════════════════════════════════════════════════════════════════════
-- Whole runs
-- ════════════════════════════════════════════════════════════════════════

/-- The exit code that a report stands for. -/
inductive Settles (allPassed : Prop) : Nat → Prop where
  | passed (passed : allPassed) : Settles allPassed 0
  | rejected (rejected : ¬ allPassed) : Settles allPassed 1

/-- The report is delivered with an entry for every file, as they are found in the state in which
    the inputs are resolved. -/
structure Reported (settings : Settings) (request : CheckRequest) (s : σ) (sofar : Outcome)
    (found : List (List FilePath)) (entries : List FileReport) (text errors : String)
    (exitCode : Nat) (logged : σ) (outcome : Outcome) (s' : σ) : Prop where
  resolves : List.Forall₂ (Resolves s) request.inputs found
  covers : List.Forall₂ (request.Covers s) found.flatten entries
  /-- Remarks are offered to the error output before the report is delivered. -/
  log : ∃ remarks, (offerAll .errors (settings.log remarks) sofar : StateM σ _) s =
    ({ sofar with errors }, logged)
  holds : Holds settings.isColored entries request.format text
  settles : Settles (∀ path ∈ found.flatten, request.FindsIn s path .passed) exitCode
  delivery : Delivery logged { sofar with exitCode, errors } request.out text outcome s'

/-- How a run goes on from where its inputs are resolved: it is broken off with a message if one of
    them cannot be, and otherwise it reports about every file. -/
structure AllOrNothing (settings : Settings) (request : CheckRequest) (s : σ)
    (sofar outcome : Outcome) (s' : σ) : Prop where
  broken : (∃ input ∈ request.inputs, Unresolved s input) → ∃ e : RunError,
    Puts s .errors e.line { sofar with exitCode := 2 } outcome s' ∧ outcome.output = sofar.output
  reported : (∀ input ∈ request.inputs, ¬ Unresolved s input) →
    ∃ found entries text errors exitCode logged,
      Reported settings request s sofar found entries text errors exitCode logged outcome s'

/-- How a run ends, given what became of its notices and the state that they were left in: it breaks
    down if they were refused. -/
def Ends (settings : Settings) (request : CheckRequest) (outcome : Outcome) (s' : σ) :
    Except Outcome Outcome → σ → Prop
  | .error broken, s => outcome = broken ∧ s' = s ∧ outcome.exitCode = breakdown ∧
    outcome.output = ""
  | .ok sofar, s => sofar.output = "" ∧ AllOrNothing settings request s sofar outcome s'

theorem run_of_read {settings : Settings} {arguments : List String} {sofar : Outcome} {s' : σ}
    (hnotices : (putAll .errors settings.notices {} : StateM σ _) s = (.ok sofar, s'))
    (hread : Invocation.read arguments = .ok (.run (.options request)))
    (hnoOp : request.noOp = false) :
    (run settings arguments : StateM σ _) s = (check settings request sofar : StateM σ _) s' := by
  unfold run
  rw [run_bind hnotices, hread]
  dsimp only
  simp [Request.run, Request.noOp, hnoOp]

variable [Lawful σ]

/-- The run is broken off if an input cannot be resolved. -/
theorem check_of_unresolved (settings : Settings) (sofar : Outcome)
    (h : ∃ input ∈ request.inputs, Unresolved s input) : ∃ e : RunError,
    (check settings request sofar : StateM σ _) s =
      (breakOff e.line sofar : StateM σ _) s := by
  obtain ⟨resolved, hresolved, hresolve⟩ := (looks_resolve (s := s) request.inputs).exists_run
  unfold check
  rw [run_bind hresolve]
  cases resolved with
  | error e => exact ⟨e, rfl⟩
  | ok paths =>
    obtain ⟨found, hfound, -⟩ := hresolved
    obtain ⟨input, hmem, hunresolved⟩ := h
    exact absurd hunresolved (forall_not_unresolved hfound input hmem)

/-- The report is delivered if all inputs can be resolved. -/
theorem reported_of_check {settings : Settings}
    (h : ∀ input ∈ request.inputs, ¬ Unresolved s input)
    (hcheck : (check settings request sofar : StateM σ _) s = (outcome, s')) :
    ∃ found entries text errors exitCode logged,
      Reported settings request s sofar found entries text errors exitCode logged outcome s' := by
  -- resolving and checking leave the state as it is, so the log is written from there
  obtain ⟨resolved, hresolved, hresolve⟩ := (looks_resolve (s := s) request.inputs).exists_run
  unfold check at hcheck
  rw [run_bind hresolve] at hcheck
  cases resolved with
  | error e =>
    obtain ⟨input, hmem, hunresolved⟩ := hresolved
    exact absurd hunresolved (h input hmem)
  | ok paths =>
    obtain ⟨found, hfound, rfl⟩ := hresolved
    obtain ⟨checks, hchecks, hrun⟩ := (looks_checks (s := s) request found.flatten).exists_run
    obtain ⟨errors, logged, hlog⟩ :=
      offerAll_errors (settings.log (checks.flatMap Prod.snd)) sofar s
    dsimp only at hcheck
    rw [run_bind hrun] at hcheck
    rw [run_bind hlog] at hcheck
    have hholds := holds_render settings.isColored (checks.map Prod.fst) request.format
    refine ⟨found, _, _, errors, _, logged, hfound, hchecks, ⟨_, hlog⟩, hholds, ?_,
      delivery_of_deliver hcheck⟩
    rw [forall_passed_iff hchecks]
    split
    · next hpassed => exact .passed hpassed
    · next hrejected => exact .rejected hrejected

/-- Every request to check documents can be made by arguments. Whatever arguments make it, the run
    is broken off, with nothing on the output and no report in a file, if one of its inputs cannot
    be resolved; otherwise it reports about every file. -/
theorem run_all_or_nothing (settings : Settings) {request : CheckRequest}
    (hnoOp : request.noOp = false) (s : σ) :
    (request.inputs ≠ [] → request.maxDepth < Nat.pow 2 64 → request.out ≠ some "" →
      Invocation.read ("options" :: request.arguments) = .ok (.run (.options request))) ∧
    ∀ arguments, Invocation.read arguments = .ok (.run (.options request)) →
      ∃ outcome s' notices noticed, (run settings arguments : StateM σ _) s = (outcome, s') ∧
        (putAll .errors settings.notices {} : StateM σ _) s = (notices, noticed) ∧
        Ends settings request outcome s' notices noticed := by
  refine ⟨Invocation.read_arguments, fun arguments hread => ?_⟩
  obtain ⟨notices, noticed, hnotices, hout⟩ := putAll_errors settings.notices {} s
  -- a run whose notices are refused is over; any other goes on from the state they have led to
  cases notices with
  | error broken =>
    refine ⟨broken, noticed, _, noticed, ?_, hnotices, rfl, rfl, hout⟩
    unfold run
    rw [run_bind hnotices]
    rfl
  | ok sofar =>
    obtain ⟨outcome, s', hcheck⟩ :=
      exists_run (check settings request sofar : StateM σ _) noticed
    refine ⟨outcome, s', _, noticed, (run_of_read hnotices hread hnoOp).trans hcheck, hnotices,
      hout, fun h => ?_, fun h => reported_of_check h hcheck⟩
    obtain ⟨e, he⟩ := check_of_unresolved settings sofar h
    have hputs := puts_of_putLast (he.symm.trans hcheck)
    refine ⟨e, hputs, ?_⟩
    cases hputs with
    | written => rfl
    | refused => rfl

/-- A request to check documents in the usual way. -/
def CheckRequest.usual (inputs : List String) : CheckRequest where
  pointer := none
  inputs
  maxDepth := 256
  format := .text
  out := none
  noOp := false

/-- A disk with one file, which holds an empty document. -/
def emptyDocument : Disk := { root := .directory [("a.json", .file [123, 125])], working := [] }

/-- A pattern that cannot be read breaks a run off between two files. Without it the file that is
    there passes twice, and the one that is not there fails in between. -/
theorem run_all_or_nothing_emptyDocument :
    (∃ outcome s', (run {} ("options" ::
          (CheckRequest.usual ["a.json", "[", "b.json"]).arguments) : StateM Disk _) emptyDocument =
        (outcome, s') ∧ outcome.exitCode = 2 ∧ outcome.output = "") ∧
      ∃ outcome s' found entries text errors exitCode logged,
        (run {} ["options", "-i", "a.json", "b.json", "a.json"] : StateM Disk _) emptyDocument =
          (outcome, s') ∧
        Reported {} (.usual ["a.json", "b.json", "a.json"]) emptyDocument {} found entries text
          errors exitCode logged outcome s' ∧
        outcome.exitCode = 1 ∧
        outcome.output = "✓ a.json\n✗ b.json: failed to read source file b.json: " ++
          "No such file or directory (os error 2)\n✓ a.json\n" := by
  constructor
  · have hnoOp : (CheckRequest.usual ["a.json", "[", "b.json"]).noOp = false := rfl
    obtain ⟨hread, hrun⟩ := run_all_or_nothing {} hnoOp emptyDocument
    obtain ⟨outcome, s', _, _, hrun, hnotices, hends⟩ :=
      hrun _ (hread (List.cons_ne_nil _ _) (by decide) (by rintro ⟨⟩))
    obtain ⟨rfl, rfl⟩ := Prod.mk.inj hnotices
    have hmalformed : Unresolved emptyDocument "[" := .malformed rfl (.inl ⟨_, rfl⟩)
    obtain ⟨e, -, houtput⟩ := hends.2.broken ⟨"[", by simp [CheckRequest.usual], hmalformed⟩
    have hcode := congrArg (fun result => result.1.exitCode) hrun
    exact ⟨outcome, s', hrun, hcode.symm, houtput⟩
  · have hnoOp : (CheckRequest.usual ["a.json", "b.json", "a.json"]).noOp = false := rfl
    obtain ⟨-, hrun⟩ := run_all_or_nothing {} hnoOp emptyDocument
    obtain ⟨outcome, s', _, _, hrun, hnotices, hends⟩ :=
      hrun ["options", "-i", "a.json", "b.json", "a.json"] rfl
    obtain ⟨rfl, rfl⟩ := Prod.mk.inj hnotices
    have hliteral : ∀ input ∈ ["a.json", "b.json", "a.json"], isPattern input = false := by decide
    obtain ⟨found, entries, text, errors, exitCode, logged, h⟩ :=
      hends.2.reported fun input hmem => not_unresolved_of_literal (hliteral input hmem)
    have hcode := congrArg (fun result => result.1.exitCode) hrun
    have houtput := congrArg (fun result => result.1.output) hrun
    exact ⟨outcome, s', found, entries, text, errors, exitCode, logged, hrun, h, hcode.symm,
      houtput.symm⟩

/-- A disk with one file, which goes on after an empty document. -/
def trailingLetter : Disk :=
  { root := .directory [("a.json", .file [123, 125, 120])], working := [] }

/-- A disk with one file, which holds an empty document, and no room for anything on the output. -/
def fullOutput : Disk :=
  { emptyDocument with output := { refusal? := some (.other 28 "No space left on device") } }

/-- A file that holds no document may pass. A report that cannot be written breaks a run off with
    the exit code for that if it is to go to a file, but with another if it is to go to the
    output. -/
theorem run_passes_trailing_letter_and_breaks_down :
    ((run {} ["options", "-i", "a.json"] : StateM Disk _) trailingLetter).1 =
        ⟨0, "✓ a.json\n", ""⟩ ∧
      (¬ ∃ document, Json.IsDocument [123, 125, 120] document) ∧
      ((run {} ["options", "-i", "a.json", "-o", "."] : StateM Disk _) fullOutput).1 =
        ⟨2, "", "error: failed to write .: Is a directory (os error 21)\n"⟩ ∧
      ((run {} ["options", "-i", "a.json"] : StateM Disk _) fullOutput).1 =
        ⟨101, "", "failed printing to stdout: No space left on device (os error 28)\n"⟩ := by
  have hrow : Json.Row (Json.MemberText (Json.Spells (Json.nestingLimit - 2))) [] [] := .none nofun
  have hempty : Json.Spells (Json.nestingLimit - 1) [123, 125] (.obj []) := .inr (.object hrow)
  have hstarts : Json.StartsWith [123, 125, 120] (.obj []) [120] :=
    ⟨[], [123, 125], nofun, hempty,
      Json.stops_of_head (by decide) (Json.digitByte_ne (by decide)), rfl⟩
  exact ⟨rfl, Json.not_isDocument_of_startsWith hstarts (by decide), rfl, rfl⟩

end Conform.Command
