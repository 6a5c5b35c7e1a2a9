import Conform.Command.Arguments
import Conform.Proofs.Numeral
import Conform.Proofs.Text.Runs

/-!
# Requests as arguments

Every request to check documents can be made: written as arguments, each switch with its value in
one argument, it is read back as it was. So an input may start with a dash, and a pointer may be
empty.

## Main definitions

- `Switch.given` — a switch with its value as one argument
- `CheckRequest.arguments` — a request as arguments

## Main results

- `Invocation.read_arguments` — a request is read back
-/

namespace Conform

theorem Count.ofText?_toString {n : Nat} (h : n < Nat.pow 2 64) :
    Count.ofText? (toString n) = some n := by
  have hdigits : ∀ c ∈ Nat.toDigits 10 n, c.isDigit = true := fun c hc =>
    Nat.isDigit_of_mem_toDigits (by decide) (by decide) hc
  have hplus : Count.dropPlus (Nat.toDigits 10 n) = Nat.toDigits 10 n := by
    unfold Count.dropPlus
    split
    · next cs hcs => exact absurd (hdigits '+' (hcs ▸ List.mem_cons_self)) (by decide)
    · rfl
  rw [Count.ofText?, Numeral.toList_toString, hplus, Numeral.ofDigits_toDigits]
  exact if_pos ⟨Nat.toDigits_ne_nil, List.all_eq_true.mpr hdigits, h⟩

namespace Command

namespace Switch

/-- A switch with its value as one argument. -/
def given (s : Switch) (value : String) : String := "--" ++ s.name ++ "=" ++ value

variable {known : List Switch} {s : Switch} {rest : List String}

/-- An argument with two dashes that says by itself which switch is meant and what it is set to. -/
theorem occurrences_named {argument : String} {c : Char} {cs : List Char} {o : Occurrence}
    (hchars : argument.toList = '-' :: '-' :: c :: cs)
    (hofName : ofName known argument (c :: cs) = ([.ok o], none)) :
    occurrences known none (argument :: rest) = .ok o :: occurrences known none rest := by
  have hvalue : isValue argument = false := by
    have hne : argument ≠ "-" := fun h => nomatch hchars.symm.trans (congrArg String.toList h)
    simp [isValue, hchars, hne]
  rw [occurrences, hvalue, hchars]
  simp [hofName, flush]

theorem takeWhile_name (hname : '=' ∉ s.name.toList) {attached : List Char}
    (h : Run.Ends (· ≠ '=') attached) :
    (s.name.toList ++ attached).takeWhile (· ≠ '=') = s.name.toList := by
  refine Run.takeWhile_append (fun c hc => ?_) h
  have hne : c ≠ '=' := fun heq => hname (heq ▸ hc)
  simpa using hne

theorem occurrences_given (hknown : known.find? (fun t => t.name == s.name) = some s)
    (hname : '=' ∉ s.name.toList) (harity : s.arity ≠ .none) (value : String) :
    occurrences known none (s.given value :: rest) =
      .ok ⟨s.name, [value]⟩ :: occurrences known none rest := by
  obtain ⟨c, cs, hcs⟩ := List.exists_cons_of_ne_nil
    (List.append_ne_nil_of_right_ne_nil s.name.toList (List.cons_ne_nil '=' value.toList))
  have hchars : (s.given value).toList = '-' :: '-' :: c :: cs := by simp [given, ← hcs]
  have hends : Run.Ends (· ≠ '=') ('=' :: value.toList) := Run.ends_cons (by simp)
  have hprefix := takeWhile_name hname hends
  refine occurrences_named hchars ?_
  rw [← hcs]
  simp only [ofName, hprefix, String.ofList_toList, hknown, List.drop_left, if_neg harity]

theorem occurrences_alone (hknown : known.find? (fun t => t.name == s.name) = some s)
    (hname : '=' ∉ s.name.toList) (harity : s.arity = .none) (hne : s.name.toList ≠ []) :
    occurrences known none (("--" ++ s.name) :: rest) =
      .ok ⟨s.name, []⟩ :: occurrences known none rest := by
  obtain ⟨c, cs, hcs⟩ := List.exists_cons_of_ne_nil hne
  have hchars : ("--" ++ s.name).toList = '-' :: '-' :: c :: cs := by simp [← hcs]
  have hprefix := takeWhile_name hname Run.ends_nil
  rw [List.append_nil] at hprefix
  refine occurrences_named hchars ?_
  rw [← hcs]
  simp only [ofName, hprefix, String.ofList_toList, hknown, List.drop_length, if_pos harity]

end Switch

/-- The name of a format. -/
def ReportFormat.name : ReportFormat → String
  | text => "text"
  | json => "json"

/-- The switches of a request to check documents. -/
def CheckRequest.known : List Switch :=
  [.help, .input, .jsonPointer, .maxDepth, .report, .out, .noOp]

namespace Given

/-- Notes every switch that was given. -/
def noteAll (g : Given) (os : List (Except Misuse Occurrence)) : Except Stop Given :=
  os.foldlM (fun g o =>
    match o with
    | .ok o => g.note o
    | .error misuse => .error (.misuse misuse)) g

/-- Whatever follows the arguments, they lead from what has been noted to this. -/
def Notes (arguments : List String) (g g' : Given) : Prop :=
  ∀ rest, g.noteAll (Switch.occurrences CheckRequest.known none (arguments ++ rest)) =
    g'.noteAll (Switch.occurrences CheckRequest.known none rest)

variable {g g' g'' : Given} {arguments arguments' : List String} {s : Switch} {value : String}

theorem Notes.nil : Notes [] g g := fun _ => rfl

theorem Notes.append (h : Notes arguments g g') (h' : Notes arguments' g' g'') :
    Notes (arguments ++ arguments') g g'' := by
  intro rest
  rw [List.append_assoc, h, h']

theorem notes_given (hknown : CheckRequest.known.find? (fun t => t.name == s.name) = some s)
    (hname : '=' ∉ s.name.toList) (harity : s.arity ≠ .none)
    (hnote : g.note ⟨s.name, [value]⟩ = .ok g') : Notes [s.given value] g g' := by
  intro rest
  rw [List.singleton_append, Switch.occurrences_given hknown hname harity]
  generalize Switch.occurrences CheckRequest.known none rest = os
  show (g.note ⟨s.name, [value]⟩ >>= fun g => g.noteAll os) = g'.noteAll os
  rw [hnote]
  rfl

theorem notes_inputs (inputs : List String) (g : Given) (hinputs : inputs ≠ []) :
    Notes (inputs.map Switch.input.given) g
      { g with inputs := some (g.inputs.getD [] ++ inputs) } := by
  induction inputs generalizing g with
  | nil => exact absurd rfl hinputs
  | cons i is ih =>
    have hfirst : Notes [Switch.input.given i] g
        { g with inputs := some (g.inputs.getD [] ++ [i]) } :=
      notes_given rfl (by decide) (by decide) rfl
    cases is with
    | nil => exact hfirst
    | cons j js =>
      have hmore := hfirst.append (ih _ (List.cons_ne_nil j js))
      rw [Option.getD_some, List.append_assoc] at hmore
      exact hmore

theorem notes_pointer (pointer : Option String) (h : g.pointer = none) :
    Notes (pointer.map Switch.jsonPointer.given).toList g { g with pointer } := by
  obtain ⟨_, inputs, maxDepth, format, out, noOp⟩ := g
  obtain rfl := h
  cases pointer with
  | none => exact .nil
  | some p => exact notes_given rfl (by decide) (by decide) rfl

theorem notes_maxDepth {n : Nat} (hn : n < Nat.pow 2 64) (h : g.maxDepth = none) :
    Notes [Switch.maxDepth.given (toString n)] g { g with maxDepth := some n } := by
  obtain ⟨pointer, inputs, _, format, out, noOp⟩ := g
  obtain rfl := h
  have hnote : note ⟨pointer, inputs, none, format, out, noOp⟩
        ⟨Switch.maxDepth.name, [toString n]⟩ =
      (once .maxDepth none (Count.ofText? (toString n)) (toString n)).map
        fun maxDepth => ⟨pointer, inputs, maxDepth, format, out, noOp⟩ := rfl
  rw [Count.ofText?_toString hn] at hnote
  exact notes_given rfl (by decide) (by decide) hnote

theorem notes_format (format : ReportFormat) (h : g.format = none) :
    Notes [Switch.report.given format.name] g { g with format := some format } := by
  obtain ⟨pointer, inputs, maxDepth, _, out, noOp⟩ := g
  obtain rfl := h
  refine notes_given rfl (by decide) (by decide) ?_
  cases format <;> rfl

theorem notes_out (out : Option String) (hout : out ≠ some "") (h : g.out = none) :
    Notes (out.map Switch.out.given).toList g { g with out } := by
  obtain ⟨pointer, inputs, maxDepth, format, _, noOp⟩ := g
  obtain rfl := h
  cases out with
  | none => exact .nil
  | some path =>
    have hnote : note ⟨pointer, inputs, maxDepth, format, none, noOp⟩ ⟨Switch.out.name, [path]⟩ =
        (once .out none (if path = "" then none else some path) path).map
          fun out => ⟨pointer, inputs, maxDepth, format, out, noOp⟩ := rfl
    rw [if_neg fun hempty => hout (congrArg some hempty)] at hnote
    exact notes_given rfl (by decide) (by decide) hnote

theorem notes_noOp (noOp : Bool) (h : g.noOp = none) :
    Notes (if noOp then ["--" ++ Switch.noOp.name] else []) g
      { g with noOp := if noOp then some true else none } := by
  obtain ⟨pointer, inputs, maxDepth, format, out, _⟩ := g
  obtain rfl := h
  cases noOp with
  | false => exact .nil
  | true =>
    intro rest
    rw [if_pos rfl, List.singleton_append,
      Switch.occurrences_alone rfl (by decide) rfl (by decide)]
    rfl

end Given

/-- A request to check documents as arguments. -/
def CheckRequest.arguments (r : CheckRequest) : List String :=
  r.inputs.map Switch.input.given ++ (r.pointer.map Switch.jsonPointer.given).toList ++
    [Switch.maxDepth.given (toString r.maxDepth)] ++ [Switch.report.given r.format.name] ++
    (r.out.map Switch.out.given).toList ++ if r.noOp then ["--" ++ Switch.noOp.name] else []

theorem CheckRequest.read_arguments {r : CheckRequest} (hinputs : r.inputs ≠ [])
    (hdepth : r.maxDepth < Nat.pow 2 64) (hout : r.out ≠ some "") :
    CheckRequest.read r.arguments = .ok r := by
  have hnotes : Given.Notes r.arguments {} ⟨r.pointer, some r.inputs, some r.maxDepth,
      some r.format, r.out, if r.noOp then some true else none⟩ :=
    (((((Given.notes_inputs r.inputs {} hinputs).append
      (Given.notes_pointer r.pointer rfl)).append
      (Given.notes_maxDepth hdepth rfl)).append
      (Given.notes_format r.format rfl)).append
      (Given.notes_out r.out hout rfl)).append
      (Given.notes_noOp r.noOp rfl)
  have hgiven : Given.ofArguments known r.arguments = .ok _ :=
    List.append_nil r.arguments ▸ hnotes []
  rw [read]
  show (Given.ofArguments known r.arguments >>= _) = _
  rw [hgiven]
  obtain ⟨pointer, inputs, maxDepth, format, out, noOp⟩ := r
  cases noOp <;> rfl

/-- Every request to check documents is what some arguments ask for, as long as there is an input,
    the depth fits a machine word, and the file to write to has a name. -/
theorem Invocation.read_arguments {r : CheckRequest} (hinputs : r.inputs ≠ [])
    (hdepth : r.maxDepth < Nat.pow 2 64) (hout : r.out ≠ some "") :
    Invocation.read ("options" :: r.arguments) = .ok (.run (.options r)) := by
  rw [Invocation.read, if_pos rfl, CheckRequest.read_arguments hinputs hdepth hout]
  rfl

end Command

end Conform
