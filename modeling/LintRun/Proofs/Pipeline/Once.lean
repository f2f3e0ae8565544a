import Mathlib
import LintRun.Proofs.Pipeline.Outcome

/-!
# Proofs — Pipeline — Running once

In which state a run leaves its pipeline, and what becomes of the runs after it.

* `Pipeline.conclude_cases`: a run is done or has failed, unless a fault that is no interruption has
  ended it.
* `Pipeline.runEach_of_ne_start`: a pipeline that has left its first state runs no more.
* `Pipeline.Runs.isFinal_iff`, `Pipeline.Runs.untestable_of_start`,
  `Pipeline.Runs.eq_of_untestable`: the state that a run leaves behind.
* `Pipeline.runs_once_unless_fault`: only a pipeline whose database cannot be looked up runs again.
* `Pipeline.runs_twice_after_fault`: such a pipeline runs again.
-/

namespace LintRun.Pipeline

open Analysis Runner

variable {p : Pipeline} {arguments : List String} {s s' : Progress}

/-- A state that no run goes on from. -/
def State.IsFinal (state : State) : Prop := state = .done ∨ state = .failed

theorem State.not_isFinal_start : ¬ State.start.IsFinal := by
  rintro (h | h) <;> cases h

/-- A fault that is no interruption ends a run where it stands. -/
theorem conclude_fault {f : Fault} (h : f ≠ .interrupted) (s : Progress) :
    conclude (stop f, s) = (stop f, s) := by
  cases f with
  | interrupted => exact absurd rfl h
  | _ => rfl

/-- **A run is done or has failed, unless a fault that is no interruption has ended it.** -/
theorem conclude_cases (outcome : Outcome Unit) (s : Progress) :
    ((conclude (outcome, s)).2.state.IsFinal ∧ ∀ f, (conclude (outcome, s)).1 = stop f →
      f = .interrupted) ∨
    ∃ f, f ≠ .interrupted ∧ outcome = stop f ∧ conclude (outcome, s) = (stop f, s) := by
  rcases outcome with (e | f) | _
  · exact .inl ⟨.inr rfl, fun f hf => by cases hf⟩
  · by_cases h : f = .interrupted
    · subst h
      refine .inl ⟨.inr rfl, fun f hf => ?_⟩
      cases hf
      rfl
    · exact .inr ⟨f, h, rfl, conclude_fault h s⟩
  · exact .inl ⟨.inl rfl, fun f hf => by cases hf⟩

/-- Where a run stands when it concludes: it has come no further than to its arguments, or they have
passed their check and it has left the first state. -/
theorem Runs.exists_conclude {kind : Turn → Prop} {result : Outcome Nat × Progress}
    (h : p.Runs kind arguments s result) (hstart : s.state = .start) :
    ∃ outcome s', result = conclude (outcome, s') ∧ ¬ s'.state.IsFinal ∧
      ((s' = s ∧ ∃ f, p.checkArguments arguments = .error f ∧ outcome = .error f) ∨
        (s'.state ≠ .start ∧ ∃ checked, p.checkArguments arguments = .ok checked)) := by
  have hprepares := p.prepare_prepares arguments s
  cases h with
  | refused hstate => exact absurd hstart hstate
  | unprepared _ hprepare =>
    rw [hprepare] at hprepares
    refine ⟨_, _, rfl, ?_⟩
    cases hprepares with
    | badArguments hcheck =>
      refine ⟨fun h => State.not_isFinal_start ?_, .inl ⟨rfl, _, hcheck, rfl⟩⟩
      rwa [← hstart]
    | noToolchain hcheck | noTarget hcheck =>
      exact ⟨by simp [State.IsFinal], .inr ⟨by simp, _, hcheck⟩⟩
  | analyzed _ hprepare =>
    rw [hprepare] at hprepares
    refine ⟨_, _, rfl, ?_⟩
    cases hprepares with
    | ready hcheck =>
      exact ⟨by simp [State.IsFinal, Progress.analyzed, Progress.enter],
        .inr ⟨by simp [Progress.analyzed, Progress.enter], _, hcheck⟩⟩

/-- What several runs of a pipeline come to, one after the other. -/
def runEach (p : Pipeline) : List (List String) → Progress → List (Outcome Nat) × Progress
  | [], s => ([], s)
  | arguments :: later, s =>
    let (outcome, s) := p.run arguments s
    let (outcomes, s) := runEach p later s
    (outcome :: outcomes, s)

/-- **A pipeline that has left its first state runs no more**, and nothing that it has done
changes. -/
theorem runEach_of_ne_start (h : s.state ≠ .start) (later : List (List String)) :
    p.runEach later s = (later.map fun _ => stop .alreadyRun, s) := by
  induction later with
  | nil => rfl
  | cons arguments later ih =>
    rw [runEach, run_of_ne_start h]
    simp only [ih, List.map_cons]

/-- A database that cannot be looked up, as the first of two arguments. -/
def HasUntestableDatabase (p : Pipeline) (arguments : List String) : Prop :=
  ∃ database target f, arguments = [database, target] ∧
    p.tree.isFile (Path.ofString database) = .error f

/-- Only a database that cannot be looked up is a fault of the arguments. -/
theorem hasUntestableDatabase_iff :
    p.HasUntestableDatabase arguments ↔ ∃ f, p.checkArguments arguments = stop f ∧
    f ≠ .interrupted := by
  constructor
  · rintro ⟨database, target, f, rfl, hfile⟩
    refine ⟨.system f, ?_, by simp⟩
    rw [checkArguments]
    simp only [hfile]
  · rintro ⟨f, hcheck, -⟩
    obtain ⟨-, e⟩ | ⟨database, target, hargs, ⟨f, hfile, -⟩ | ⟨-, e⟩ | ⟨-, e⟩⟩ :=
      checkArguments_cases p arguments
    · cases e.symm.trans hcheck
    · exact ⟨database, target, f, hargs, hfile⟩
    · cases e.symm.trans hcheck
    · cases e.symm.trans hcheck

section NewPipeline

variable {kind : Turn → Prop} {result : Outcome Nat × Progress}

/-- A run is done or has failed exactly if it ends with an exit code or is interrupted. -/
theorem Runs.isFinal_iff (h : p.Runs kind arguments s result) (hstart : s.state = .start) :
    result.2.state.IsFinal ↔ ∀ f, result.1 = stop f → f = .interrupted := by
  obtain ⟨outcome, s', rfl, hopen, -⟩ := h.exists_conclude hstart
  obtain ⟨hfinal, hinterrupted⟩ | ⟨f, hne, -, e⟩ := conclude_cases outcome s'
  · exact ⟨fun _ => hinterrupted, fun _ => hfinal⟩
  · rw [e]
    exact ⟨fun hfinal => absurd hfinal hopen, fun hinterrupted => absurd (hinterrupted f rfl) hne⟩

/-- Only a database that cannot be looked up leaves a pipeline in its first state, and nothing has
changed then. -/
theorem Runs.untestable_of_start (h : p.Runs kind arguments s result) (hstart : s.state = .start)
    (hresult : result.2.state = .start) : p.HasUntestableDatabase arguments ∧ result.2 = s := by
  obtain ⟨outcome, s', rfl, -, hstage⟩ := h.exists_conclude hstart
  obtain ⟨hfinal, -⟩ | ⟨f, hne, rfl, e⟩ := conclude_cases outcome s'
  · rw [hresult] at hfinal
    exact absurd hfinal State.not_isFinal_start
  · rw [e] at hresult ⊢
    -- a run that comes past its arguments has left the first state
    obtain ⟨rfl, f', hcheck, hf⟩ | ⟨hleft, -⟩ := hstage
    · cases hf
      exact ⟨hasUntestableDatabase_iff.2 ⟨f, hcheck, hne⟩, rfl⟩
    · exact absurd hresult hleft

/-- A database that cannot be looked up leaves a pipeline as it is. -/
theorem Runs.eq_of_untestable (h : p.Runs kind arguments s result) (hstart : s.state = .start)
    (hdatabase : p.HasUntestableDatabase arguments) : result.2 = s := by
  obtain ⟨f, hcheck, hne⟩ := hasUntestableDatabase_iff.1 hdatabase
  obtain ⟨outcome, s', rfl, -, ⟨rfl, f', hcheck', rfl⟩ | ⟨-, checked, hcheck'⟩⟩ :=
    h.exists_conclude hstart
  · obtain rfl := Except.error.inj (hcheck.symm.trans hcheck')
    exact congrArg Prod.snd (conclude_fault hne s')
  · cases hcheck.symm.trans hcheck'

end NewPipeline

/-- **A pipeline runs once and comes to an end, unless a fault gets in its way.** A run of a new
pipeline, whoever cancels it, leaves it done or failed exactly if it ends with an exit code or is
interrupted. Any other fault leaves it in the state that it has come to. That is the first state
exactly if the database cannot be looked up, and nothing has changed then. In every other state no
later run does anything. -/
theorem runs_once_unless_fault (p : Pipeline) (arguments : List String) (session : Resolver.Session)
    (written : Report) (result : Outcome Nat × Progress)
    (hruns : p.Runs (fun _ => True) arguments { session := session, report := written } result) :
    (result.2.state.IsFinal ↔ ∀ f, result.1 = stop f → f = .interrupted) ∧
    (result.2.state = .start ↔ p.HasUntestableDatabase arguments) ∧
    (result.2.state = .start → result.2 = { session := session, report := written }) ∧
    (result.2.state ≠ .start → ∀ later : List (List String),
      p.runEach later result.2 = (later.map fun _ => stop .alreadyRun, result.2)) := by
  refine ⟨hruns.isFinal_iff rfl, ⟨fun h => (hruns.untestable_of_start rfl h).1, fun h => ?_⟩,
    fun h => (hruns.untestable_of_start rfl h).2, runEach_of_ne_start⟩
  rw [hruns.eq_of_untestable rfl h]

/-- A run that writes the section of its only file. -/
theorem run_oneFile_of_verdicts {c : Conduct} (hcalm : c.cancelled = none) {entry : Section}
    (hverdicts : (oneFile false c).verdicts oneFileJob = [.completed entry]) (s : Progress)
    (h : s.state = .start) :
    ∃ session crew, (oneFile false c).run ["db", "a.cc"] s =
      conclude (.ok (), Progress.analyzed
        { s with
          state := .targetResolved, toolchain := some oneFileJob.toolchain, files :=
            oneFileJob.files
          session := session } [entry] crew) := by
  obtain ⟨session, hprepare⟩ := prepare_oneFile false c none s
  obtain ⟨crew, hrun⟩ := run_of_isSteady h hprepare fun command c' hc => by cases hc; exact hcalm
  have hgiven : ((oneFile false c).jobRunner oneFileJob).given (.completed entry) =
      .ok (some entry) := by
    cases he : entry.error <;> simp [given, checked, he, Except.map, jobRunner, runner, oneFile]
  have hsurvey : ((oneFile false c).jobRunner oneFileJob).survey [.completed entry] =
      ([entry], none) := by
    simp only [survey, hgiven]
  rw [hverdicts, hsurvey] at hrun
  exact ⟨session, crew, hrun⟩

/-- A run that analyzes its only file. -/
theorem run_oneFile (s : Progress) (h : s.state = .start) :
    ∃ session crew, (oneFile false {}).run ["db", "a.cc"] s =
      conclude (.ok (), Progress.analyzed
        { s with
          state := .targetResolved, toolchain := some oneFileJob.toolchain, files :=
            oneFileJob.files
          session := session } [{ file := ⟨.relative, ["a.cc"]⟩, status := some 0 }] crew) :=
  run_oneFile_of_verdicts rfl (by decide) s h

/-- After a run that is done, no other one does anything. -/
theorem runs_once_with_one_file :
    let p := oneFile false {}
    let s : Progress := { report := ⟨"run", "start", "", []⟩ }
    let result := p.run ["db", "a.cc"] s
    p.Runs (fun _ => True) ["db", "a.cc"] s result ∧ result.2.state.IsFinal ∧
      ∀ later : List (List String), p.runEach later result.2 =
        (later.map fun _ => stop .alreadyRun, result.2) := by
  intro p s result
  have hruns : p.Runs (fun _ => True) ["db", "a.cc"] s result := p.runs_run _ _ _ fun _ _ => trivial
  have hstate : result.2.state = .done := by
    obtain ⟨session, crew, hrun⟩ := run_oneFile s rfl
    rw [show result = _ from hrun]
    rfl
  obtain ⟨-, -, -, honce⟩ := runs_once_unless_fault p ["db", "a.cc"] {} s.report result hruns
  exact ⟨hruns, .inl hstate, honce (by rw [hstate]; decide)⟩

/-- **A pipeline whose database cannot be looked up runs again.** The name of the database is too
long: the run ends with a fault in the first state, and the next one goes through. -/
theorem runs_twice_after_fault :
    let p := oneFile false {}
    let long := String.ofList (List.replicate 256 'x')
    let first := p.run [long, "a.cc"] { report := ⟨"run", "start", "", []⟩ }
    let second := p.run ["db", "a.cc"] first.2
    first.1 = stop (.system (Refusal.nameTooLong.on long)) ∧ ¬ first.2.state.IsFinal ∧
      second.1 = .ok 0 ∧ second.2.report ≠ first.2.report := by
  intro p long first second
  have hletters (c : Char) (hc : c ≠ 'x') : c ∉ long.toList := by
    rw [String.toList_ofList]
    exact fun h => hc (List.eq_of_mem_replicate h)
  have hsize : long.utf8ByteSize = 256 := by
    rw [String.utf8ByteSize_ofList]
    decide +kernel
  have hfile : p.tree.isFile (Path.ofString long) = .error (Refusal.nameTooLong.on long) :=
    FileTree.leadsTo_ofString_of_long Node.isFile rfl rfl (hletters '/' (by decide))
      (hletters '\x00' (by decide))
      (by rw [hsize]; decide) (by rw [hsize]; decide)
  have hfirst : first =
      (stop (.system (Refusal.nameTooLong.on long)), { report := ⟨"run", "start", "", []⟩ }) := by
    show p.run [long, "a.cc"] { report := ⟨"run", "start", "", []⟩ } = _
    rw [run_eq rfl, prepare, checkArguments]
    simp only [Stateful.run_bind, hfile, run_lift]
    rfl
  obtain ⟨session, crew, hrun⟩ := run_oneFile first.2 (by rw [hfirst])
  rw [show second = _ from hrun, hfirst]
  refine ⟨rfl, State.not_isFinal_start, rfl, fun h => ?_⟩
  have hentries := congrArg (fun r : Report => r.entries.length) h
  simp [Report.write, conclude, Progress.enter, Progress.analyzed] at hentries

end LintRun.Pipeline
