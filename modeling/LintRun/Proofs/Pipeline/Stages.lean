import Mathlib
import LintRun.Pipeline.Course
import LintRun.Proofs.Analysis.Agreement
import LintRun.Proofs.Toolchain.Resolver

/-!
# Proofs — Pipeline — Stages

What the stages of a pipeline do, each said once.

* `Pipeline.Prepares`: the ways in which the stages before the analysis end, each with its outcome
  and the progress that it leaves. `Pipeline.prepare_prepares`: they end in one of these ways.
* `Pipeline.run_eq`: a run prepares its analysis, goes through it, and concludes.
* `Pipeline.runs_run`: what `Pipeline.run` computes is a run, and nobody cancels it if no process
  provokes it.
-/

namespace LintRun.Pipeline

open Analysis Runner

variable {p : Pipeline} {arguments : List String} {s s' : Progress}

/-! ### Steps -/

@[simp] theorem run_lift {α : Type} (x : Outcome α) (s : Progress) : (lift x).run s = (x, s) := by
  cases x <;> rfl

@[simp] theorem run_enter (state : State) (s : Progress) :
    (enter state).run s = (.ok ⟨⟩, s.enter state) := rfl

/-- The toolchain of a resolution is kept, if there is one. -/
theorem run_setUp (p : Pipeline) (s : Progress) :
    p.setUp.run s =
      match (p.resolver.resolve p.config.productsDir).run s.session with
      | (.ok toolchain, session) =>
        (.ok toolchain, { s with session := session, toolchain := some toolchain })
      | (.error f, session) => (.error f, { s with session := session }) := by
  simp only [setUp, Stateful.run_bind, Stateful.run_get]
  rcases (p.resolver.resolve p.config.productsDir).run s.session with ⟨_ | _, _⟩ <;> rfl

/-- The files of a target are kept, if it can be resolved. What is noted about them touches nothing
else. -/
theorem run_resolveTarget (p : Pipeline) (target : String) (s : Progress) :
    (∃ f, Target.resolve p.tree p.endings target = .error f ∧
      (p.resolveTarget target).run s = (.error f, s)) ∨
    ∃ files log, Target.resolve p.tree p.endings target = .ok files ∧
      (p.resolveTarget target).run s =
        (.ok files,
          { s with
            state := .targetResolved, files := files,
            session := { s.session with log := log } }) := by
  simp only [resolveTarget, Stateful.run_bind, run_lift]
  cases hfiles : Target.resolve p.tree p.endings target with
  | error f => exact .inl ⟨f, rfl, rfl⟩
  | ok files =>
    cases hempty : files.isEmpty with
    | true => exact .inr ⟨files, _, rfl, by simp only [hempty]; rfl⟩
    | false => exact .inr ⟨files, _, rfl, by simp only [hempty]; rfl⟩

/-- The sections of an analysis are written, and its crew is kept. -/
theorem run_analyze (p : Pipeline) (job : Job) (s : Progress) :
    (p.analyze job.toolchain job.database job.files).run s =
      (ending ((p.jobRunner job).all {} (p.jobSeries job)).2.1,
        s.analyzed ((p.jobRunner job).all {} (p.jobSeries job)).1
          ((p.jobRunner job).all {} (p.jobSeries job)).2.2.1) := by
  simp only [analyze, Stateful.run_bind, run_enter, Stateful.run_modify]
  rw [show (p.runner job.toolchain).all {}
    ((p.runner job.toolchain).series job.database p.catalog.composed.shown job.files) =
    (p.jobRunner job).all {} (p.jobSeries job) from rfl]
  rcases (p.jobRunner job).all {} (p.jobSeries job) with ⟨sections, _ | f, crew, series⟩ <;> rfl

/-! ### Before the analysis -/

/-- **The ways in which the stages before the analysis end**: with what, and in which progress. What
a stage does not mention it leaves alone. -/
inductive Prepares (p : Pipeline) (arguments : List String)
    (s : Progress) : Outcome Job → Progress → Prop where
  | badArguments {f : Failure} (h : p.checkArguments arguments = .error f) :
      Prepares p arguments s (.error f) s
  | noToolchain {database : Path} {target : String} {f : Failure} {session : Resolver.Session}
      (h : p.checkArguments arguments = .ok (database, target))
      (hends : p.resolver.EndsWith p.config.productsDir s.session (.error f, session)) :
      Prepares p arguments s (.error f) { s with state := .argumentsValidated, session := session }
  | noTarget {database : Path} {target : String} {toolchain : Toolchain} {f : Failure}
      {session : Resolver.Session}
      (h : p.checkArguments arguments = .ok (database, target))
      (hends : p.resolver.EndsWith p.config.productsDir s.session (.ok toolchain, session))
      (htarget : Target.resolve p.tree p.endings target = .error f) :
      Prepares p arguments s (.error f)
        { s with state := .toolchainActive, toolchain := some toolchain, session := session }
  | ready {database : Path} {target : String} {toolchain : Toolchain} {files : List Path}
      {session : Resolver.Session}
      (h : p.checkArguments arguments = .ok (database, target))
      (hends : p.resolver.EndsWith p.config.productsDir s.session (.ok toolchain, session))
      (htarget : Target.resolve p.tree p.endings target = .ok files) :
      Prepares p arguments s (.ok { database, toolchain, files })
        { s with
          state := .targetResolved, toolchain := some toolchain, files := files,
          session := session }

/-- **The stages before the analysis end in one of these ways.** -/
theorem prepare_prepares (p : Pipeline) (arguments : List String) (s : Progress) :
    p.Prepares arguments s ((p.prepare arguments).run s).1 ((p.prepare arguments).run s).2 := by
  simp only [prepare, Stateful.run_bind, run_lift]
  cases hcheck : p.checkArguments arguments with
  | error f => exact .badArguments hcheck
  | ok checked =>
    obtain ⟨database, target⟩ := checked
    simp only [run_enter, run_setUp]
    -- what is noted in between is no part of what a resolution starts from
    obtain ⟨scripts, last, hends, hscripts, hlast⟩ :=
      p.resolver.resolve_ends p.config.productsDir (s.enter .argumentsValidated).session
    revert hends hscripts hlast
    rcases (p.resolver.resolve p.config.productsDir).run (s.enter .argumentsValidated).session with
      ⟨f | toolchain, session⟩ <;> intro hends hscripts hlast
    · exact .noToolchain hcheck ⟨scripts, last, hends, hscripts, hlast⟩
    · simp only
      obtain ⟨f, htarget, e⟩ | ⟨files, log, htarget, e⟩ := run_resolveTarget p target
          (Progress.enter
            { s.enter .argumentsValidated with session := session, toolchain := some toolchain }
            .toolchainActive) <;>
        rw [e]
      · exact .noTarget hcheck ⟨scripts, last, hends, hscripts, hlast⟩ htarget
      · exact .ready hcheck ⟨scripts, last, hends, hscripts, hlast⟩ htarget

/-! ### Runs -/

/-- **A run prepares its analysis, goes through it, and concludes.** -/
theorem run_eq (h : s.state = .start) : p.run arguments s =
    match (p.prepare arguments).run s with
    | (.error f, s') => conclude (.error f, s')
    | (.ok job, s') =>
      conclude (ending ((p.jobRunner job).all {} (p.jobSeries job)).2.1,
        s'.analyzed ((p.jobRunner job).all {} (p.jobSeries job)).1
          ((p.jobRunner job).all {} (p.jobSeries job)).2.2.1) := by
  -- the stages are those of the preparation, with the analysis behind them
  have hstages : (p.stages arguments).run s =
      match (p.prepare arguments).run s with
      | (.error f, s') => (.error f, s')
      | (.ok job, s') => (p.analyze job.toolchain job.database job.files).run s' := by
    simp only [stages, prepare, Stateful.run_bind, run_lift]
    rcases p.checkArguments arguments with f | ⟨database, target⟩
    · rfl
    simp only [run_enter]
    rcases p.setUp.run (s.enter .argumentsValidated) with ⟨f | toolchain, s₁⟩
    · rfl
    simp only
    rcases (p.resolveTarget target).run (s₁.enter .toolchainActive) with ⟨f | files, s₂⟩
    · rfl
    · rfl
  have hrun : p.run arguments s = conclude ((p.stages arguments).run s) := by
    rw [run, if_neg (not_not.2 h)]
    rcases (p.stages arguments).run s with ⟨(e | f) | _, s'⟩
    · rfl
    · cases f <;> rfl
    · rfl
  rw [hrun, hstages]
  rcases (p.prepare arguments).run s with ⟨f | job, s'⟩
  · rfl
  · simp only [run_analyze]

/-- A pipeline that has run already does nothing. -/
theorem run_of_ne_start (h : s.state ≠ .start) : p.run arguments s = (stop .alreadyRun, s) := by
  rw [run, if_pos h]

/-- **What `Pipeline.run` computes is a run**, and nobody cancels it if no process provokes a
cancellation. -/
theorem runs_run (p : Pipeline) (arguments : List String) (s : Progress) (kind : Turn → Prop)
    (hkind : ∀ turn : Turn, ((∀ toolchain, (p.runner toolchain).context.IsSteady) →
      turn.isCalm = true) → kind turn) :
    p.Runs kind arguments s (p.run arguments s) := by
  by_cases h : s.state = .start
  · rw [run_eq h]
    rcases hprepare : (p.prepare arguments).run s with ⟨f | job, s'⟩
    · exact .unprepared h hprepare
    · have hjobs : (p.jobSeries job).parallel = true → 1 ≤ (p.jobRunner job).jobs :=
        one_le_jobs_of_parallel job.database p.catalog.composed.shown job.files
      obtain ⟨turns, hcourse, hcalm⟩ :=
        Course.leads_all (show (p.jobSeries job).place = none from rfl) hjobs {}
      change p.course job turns = _ at hcourse
      have hruns : p.Runs kind arguments s _ := .analyzed h hprepare
        (fun turn hturn => hkind turn fun hsteady => hcalm (hsteady job.toolchain) turn hturn)
        (by rw [hcourse])
      rwa [hcourse] at hruns
  · rw [run_of_ne_start h]
    exact .refused h

end LintRun.Pipeline
