import Mathlib
import LintRun.Proofs.Analysis.Ending
import LintRun.Proofs.Pipeline.Outcome

/-!
# Proofs — Pipeline — Completeness

What the report of a run holds that has ended with exit code 0, whoever has cancelled it and when.

* `Problem.exitCode_ne_zero`: no problem has that exit code.
* `Pipeline.files_course`: the sections of an analysis are those of the first files.
* `Pipeline.course_accounts`: the sections of an analysis that has ended without a failure.
* `Pipeline.success_accounts_for_files`: the report has a section for each of the first files, in
  order, and it is complete exactly if something came of the file behind them.
* `Pipeline.success_without_section`: it need not be complete.
-/

namespace LintRun

/-- No problem ends a run with the exit code of success. -/
theorem Problem.exitCode_ne_zero (e : Problem) : e.exitCode ≠ 0 := by
  rw [exitCode]
  cases e.kind <;> decide

namespace Pipeline

open Analysis Runner

variable {p : Pipeline} {arguments : List String} {s s' : Progress}

/-- A run returns the exit code of its problem, or that of success. -/
theorem conclude_eq_ok {outcome : Outcome Unit} {s last : Progress} {code : Nat}
    (h : conclude (outcome, s) = (.ok code, last)) :
    (outcome = .ok () ∧ code = 0 ∧ last = s.enter .done) ∨
      ∃ e, outcome = report e ∧ code = e.exitCode ∧ last = s.fail (some e) := by
  rcases outcome with (e | f) | _
  · obtain ⟨hcode, hlast⟩ := Prod.mk.inj h
    exact .inr ⟨e, rfl, (Except.ok.inj hcode).symm, hlast.symm⟩
  · cases f <;> cases (Prod.mk.inj h).1
  · obtain ⟨hcode, hlast⟩ := Prod.mk.inj h
    exact .inl ⟨rfl, (Except.ok.inj hcode).symm, hlast.symm⟩

/-- Only a run without a failure ends with exit code 0, and it is done then. -/
theorem conclude_eq_zero {outcome : Outcome Unit} (h : (conclude (outcome, s)).1 = .ok 0) :
    outcome = .ok () ∧ (conclude (outcome, s)).2 = s.enter .done := by
  obtain ⟨houtcome, -, hlast⟩ | ⟨e, -, hcode, -⟩ := conclude_eq_ok (Prod.ext h rfl)
  · exact ⟨houtcome, hlast⟩
  · exact absurd hcode.symm e.exitCode_ne_zero

/-- The files of an analysis are kept. -/
theorem files_of_prepare {job : Job} (h : (p.prepare arguments).run s = (.ok job, s')) :
    s'.files = job.files ∧ s'.report = s.report := by
  have hprepares := p.prepare_prepares arguments s
  rw [h] at hprepares
  cases hprepares with
  | ready => exact ⟨rfl, rfl⟩

/-- **The sections of an analysis are those of the first files**, in order, whoever cancels it and
when. -/
theorem files_course (p : Pipeline) (job : Job) (turns : List Turn) :
    (p.course job turns).given.map Section.file =
      job.files.take (p.course job turns).given.length := by
  have hsound : (p.course job turns).Sound (p.jobRunner job) := (Course.sound_start _ _ _).run turns
  have haccounted : (p.course job turns).IsAccounted :=
    (Course.IsAccounted.start {} (p.jobSeries job)).run (Course.sound_start _ _ _) turns
  have hseries : (p.course job turns).series = p.jobSeries job := Course.series_run _ _ turns
  have hfiles := haccounted.files_given hsound
  rwa [hseries] at hfiles

/-- **The sections of an analysis that has ended without a failure** are those of the first files,
in order. There is one for every file exactly if something came of the file behind them, and nothing
came of it only because somebody has cancelled. -/
theorem course_accounts (p : Pipeline) (job : Job) (turns : List Turn)
    (hover : (p.course job turns).phase = .over) (hf : (p.course job turns).failure = none) :
    let x := p.course job turns
    x.given.map Section.file = job.files.take x.given.length ∧
      (x.given.length = job.files.length ↔ x.crew.result? x.given.length ≠ some .nothing) ∧
      (x.crew.result? x.given.length = some .nothing → x.crew.cancelled = true) := by
  intro x
  have hsound : x.Sound (p.jobRunner job) := (Course.sound_start _ _ _).run turns
  have haccounted : x.IsAccounted :=
    (Course.IsAccounted.start {} (p.jobSeries job)).run (Course.sound_start _ _ _) turns
  have hseries : x.series = p.jobSeries job := Course.series_run _ _ turns
  have hcurrent : x.current = x.given.length := by
    rw [Course.current, show x.first = 0 from Course.first_run _ _ turns, Nat.zero_add]
  have hclosed : ¬ x.IsOpen := by simp [Course.IsOpen, x, hover]
  have hcomplete := haccounted.complete_iff hsound hclosed hf
  rw [hseries, hcurrent] at hcomplete
  refine ⟨p.files_course job turns, hcomplete, fun hnothing => hsound.cancelled_of_nothing ?_⟩
  rw [hcurrent]
  exact hnothing

/-- **Exit code 0 does not mean that every file was analyzed.** A run that ends with it is done, and
the report has received sections of the first files, in order, whoever has cancelled the run and
when. There is one for every file exactly if something came of the file behind them, and nothing
came of it only because somebody has cancelled. -/
theorem success_accounts_for_files (p : Pipeline) (arguments : List String)
    (session : Resolver.Session) (written : Report) (result : Outcome Nat × Progress)
    (hruns : p.Runs (fun _ => True) arguments { session := session, report := written } result)
    (hzero : result.1 = .ok 0) :
    result.2.state = .done ∧ ∃ (sections : List Section) (crew : Crew), result.2.crew = some crew ∧
      result.2.report = sections.foldl Report.write written ∧
      sections.map Section.file = result.2.files.take sections.length ∧
      (sections.length = result.2.files.length ↔ crew.result? sections.length ≠ some .nothing) ∧
      (crew.result? sections.length = some .nothing → crew.cancelled = true) := by
  cases hruns with
  | refused hstate => exact absurd rfl hstate
  | unprepared hstate hprepare =>
    obtain ⟨h, -⟩ := conclude_eq_zero hzero
    cases h
  | @analyzed job s' turns hstate hprepare _ hover =>
    obtain ⟨hending, hresult⟩ := conclude_eq_zero hzero
    have hf : (p.course job turns).failure = none := by
      cases hf : (p.course job turns).failure with
      | none => rfl
      | some f =>
        rw [hf] at hending
        cases hending
    obtain ⟨hfiles, hcomplete, hcancelled⟩ := p.course_accounts job turns hover hf
    obtain ⟨hkept, hreport⟩ := files_of_prepare hprepare
    rw [hresult]
    refine ⟨rfl, (p.course job turns).given, (p.course job turns).crew, rfl, ?_, ?_, ?_, hcancelled⟩
    · show (p.course job turns).given.foldl Report.write s'.report = _
      rw [hreport]
    · exact hfiles.trans (congrArg (List.take _) hkept.symm)
    · rw [← hkept] at hcomplete
      exact hcomplete

/-- Somebody cancels while the analyzer of the only file runs. -/
theorem run_cancelled_oneFile (s : Progress) (h : s.state = .start) :
    ∃ session crew, (oneFile false { cancelled := some .run }).run ["db", "a.cc"] s =
      conclude (.ok (), Progress.analyzed
        { s with
          state := .targetResolved, toolchain := some oneFileJob.toolchain, files :=
            oneFileJob.files
          session := session } [] crew) := by
  let p := oneFile false { cancelled := some .run }
  obtain ⟨session, hprepare⟩ := prepare_oneFile false { cancelled := some .run } none s
  have hfailure : ((p.jobRunner oneFileJob).all {} (p.jobSeries oneFileJob)).2.1 = none := by
    rw [← Option.isNone_iff_eq_none]
    decide
  have hsections : ((p.jobRunner oneFileJob).all {} (p.jobSeries oneFileJob)).1 = [] := by decide
  refine ⟨session, ((p.jobRunner oneFileJob).all {} (p.jobSeries oneFileJob)).2.2.1, ?_⟩
  rw [run_eq h, hprepare]
  simp only [p] at hfailure hsections
  simp only [hfailure, hsections, p]
  rfl

/-- Such a run ends with exit code 0, and the report is accounted for. -/
theorem success_accounts_for_cancelled_file :
    let p := oneFile false { cancelled := some .run }
    let s : Progress := { report := ⟨"run", "start", "", []⟩ }
    let result := p.run ["db", "a.cc"] s
    p.Runs (fun _ => True) ["db", "a.cc"] s result ∧ result.1 = .ok 0 ∧ result.2.state = .done ∧
      ∃ (sections : List Section) (crew : Crew), result.2.crew = some crew ∧
        result.2.report = sections.foldl Report.write s.report ∧
        sections.map Section.file = result.2.files.take sections.length ∧
        (sections.length = result.2.files.length ↔ crew.result? sections.length ≠ some .nothing) ∧
        (crew.result? sections.length = some .nothing → crew.cancelled = true) := by
  intro p s result
  have hruns : p.Runs (fun _ => True) ["db", "a.cc"] s result := p.runs_run _ _ _ fun _ _ => trivial
  have hzero : result.1 = .ok 0 := by
    obtain ⟨session, crew, hrun⟩ := run_cancelled_oneFile s rfl
    rw [show result = _ from hrun]
    rfl
  exact ⟨hruns, hzero, success_accounts_for_files p ["db", "a.cc"] {} s.report result hruns hzero⟩

/-- **A run that was cancelled ends as a complete one does.** Somebody cancels while the analyzer of
the only file runs: the exit code is 0 and the run is done, but the report has received no section
for the file. -/
theorem success_without_section :
    let p := oneFile false { cancelled := some .run }
    let s : Progress := { report := ⟨"run", "start", "", []⟩ }
    let result := p.run ["db", "a.cc"] s
    result.1 = .ok 0 ∧ result.2.state = .done ∧ result.2.files = [⟨.relative, ["a.cc"]⟩] ∧
      result.2.report = s.report ∧
      ¬ ∃ sections : List Section, result.2.report = sections.foldl Report.write s.report ∧
        sections.map Section.file = result.2.files := by
  intro p s result
  obtain ⟨session, crew, hrun⟩ := run_cancelled_oneFile s rfl
  have hresult : result = _ := hrun
  rw [hresult]
  refine ⟨rfl, rfl, rfl, rfl, ?_⟩
  rintro ⟨sections, hreport, hfiles⟩
  obtain ⟨entry, rfl⟩ : ∃ entry, sections = [entry] :=
    List.length_eq_one_iff.1
      ((List.length_map Section.file).symm.trans (congrArg List.length hfiles))
  have hentries := congrArg (fun r : Report => r.entries.length) hreport
  simp [Report.write, conclude, Progress.enter, Progress.analyzed, s] at hentries

end Pipeline
end LintRun
