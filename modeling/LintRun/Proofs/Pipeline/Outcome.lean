import Mathlib
import LintRun.Proofs.Pipeline.Stages
import LintRun.Proofs.Target.Resolution
import LintRun.Proofs.Toolchain.Resolution

/-!
# Proofs — Pipeline — Outcomes

How a run of a new pipeline ends, if nothing stands in its way but the problems that the tool
reports, and analyzers that nobody can wait for.

* `Pipeline.IsOrdinary`: nothing that a run does is a fault, waits for analyzers left aside, and
  nobody interrupts it.
* `Pipeline.Strands`: an analyzer was started that nobody can wait for.
* `Pipeline.Ends`: the ways in which a run ends, in the order of its stages, each with its exit code
  and all that it leaves behind.
* `Pipeline.outcome_is_that_of_first_failing_stage`: every run ends in one of these ways.
-/

namespace LintRun

namespace Runner

open Analysis

/-- **A survey goes through the sections in order**, up to the first result that ends the series. -/
theorem survey_cases (r : Runner) {results : List Result} (h : Result.nothing ∉ results) :
    (∃ sections : List Section, results = sections.map .completed ∧
      r.survey results = (sections, none) ∧
      (r.failFast = true → ∀ s ∈ sections, s.error = none)) ∨
    ∃ (fine : List Section) (last : Result) (rest : List Result) (f : Failure),
      results = fine.map .completed ++ last :: rest ∧ r.survey results = (fine, some f) ∧
      (r.failFast = true → ∀ s ∈ fine, s.error = none) ∧ r.given last = .error f := by
  induction results with
  | nil => exact .inl ⟨[], rfl, rfl, fun _ s hs => absurd hs List.not_mem_nil⟩
  | cons result results ih =>
    obtain ⟨hresult, hresults⟩ := List.ne_and_not_mem_of_not_mem_cons h
    cases hgiven : r.given result with
    | error f =>
      exact .inr ⟨[], result, results, f, rfl, by simp only [survey, hgiven],
        fun _ s hs => absurd hs List.not_mem_nil, hgiven⟩
    | ok answer =>
      cases answer with
      | none => exact absurd (eq_nothing_of_given hgiven).symm hresult
      | some s =>
        obtain rfl := eq_completed_of_given hgiven
        -- its error would have ended the series
        have herror (hfast : r.failFast = true) : s.error = none := by
          by_contra hne
          obtain ⟨e, he⟩ := Option.ne_none_iff_exists'.1 hne
          simp [given, checked, he, hfast, report, Except.map] at hgiven
        rw [survey, hgiven]
        obtain ⟨sections, rfl, hsurvey, hfine⟩ |
            ⟨fine, last, rest, f, rfl, hsurvey, hfine, hlast⟩ := ih hresults
        · exact .inl ⟨s :: sections, rfl, by simp only [hsurvey],
            fun hfast => List.forall_mem_cons.2 ⟨herror hfast, hfine hfast⟩⟩
        · exact .inr ⟨s :: fine, last, rest, f, rfl, by simp only [hsurvey],
            fun hfast => List.forall_mem_cons.2 ⟨herror hfast, hfine hfast⟩, hlast⟩

/-- A section ends a series only by its error, if the first one is to end it. -/
theorem of_given_completed {r : Runner} {s : Section} {f : Failure}
    (h : r.given (.completed s) = .error f) :
    r.failFast = true ∧ ∃ e, s.error = some e ∧ f = .problem (.analyzer e) := by
  cases he : s.error with
  | none => simp [given, checked, he, Except.map] at h
  | some e =>
    cases hfast : r.failFast with
    | false => simp [given, checked, he, hfast, Except.map] at h
    | true => exact ⟨rfl, e,
        rfl, by simpa [given, checked, he, hfast, report, Except.map] using h.symm⟩

end Runner

namespace Analysis

/-- An attempt to start a process that neither is a fault nor leads to an interruption. -/
def Start.IsOrdinary : Start → Prop
  | .refused _ => True
  | .impossible _ => False
  | .process c => c.interrupts = false ∧ c.interruptsLate = false

/-- What comes of a file whose process is ordinary: a section, unless nobody can wait for the
process. -/
theorem Task.verdict_of_isOrdinary (ctx : Context) (t : Task)
    (h : (ctx.launcher ctx.timeout t.command ctx.environment).IsOrdinary) :
    (∃ s, t.verdict ctx = .completed s) ∨
    ∃ c f, ctx.launcher ctx.timeout t.command ctx.environment = .process c ∧ c.waitFault = some f ∧
      t.verdict ctx = .raised (.wait f) := by
  rw [verdict]
  cases hstart : ctx.launcher ctx.timeout t.command ctx.environment with
  | refused f => exact .inl ⟨_, rfl⟩
  | impossible f =>
    rw [hstart] at h
    exact h.elim
  | process c =>
    rw [hstart] at h
    obtain ⟨hi, hl⟩ : c.interrupts = false ∧ c.interruptsLate = false := h
    cases hf : c.waitFault with
    | some f => exact .inr ⟨c, f, rfl, hf, by simp [Conduct.raised?, Conduct.raises?, hi, hf]⟩
    | none => exact .inl ⟨_, by simp only [Conduct.raised?, Conduct.raises?, hi, hl, hf]; simp; rfl⟩

end Analysis

namespace Pipeline

open Analysis Runner

variable {p : Pipeline} {arguments : List String} {s : Progress}

/-- What comes of each file of an analysis that nobody cancels. -/
def verdicts (p : Pipeline) (job : Job) : List Result :=
  (p.jobRunner job).verdicts (p.jobSeries job)

/-- Nothing that a run does is a fault: no path that it looks up, no version that it reads, no shell
and no analyzer that it starts. Nobody interrupts it. Whether analyzers can be waited for is left
open. -/
structure IsOrdinary (p : Pipeline) (arguments : List String) (s : Progress) : Prop where
  database : ∀ database target, arguments = [database, target] →
    ∀ f, p.tree.isFile (Path.ofString database) ≠ .error f
  toolchain : ∀ database target, p.checkArguments arguments = .ok (database, target) →
    p.resolver.IsOrdinary p.config.productsDir s.session.scripts.length
  target : ∀ database target toolchain session,
    p.checkArguments arguments = .ok (database, target) →
    p.resolver.EndsWith p.config.productsDir s.session (.ok toolchain, session) →
    ∀ q, Target.Tests p.tree target q → p.tree.IsTestable q
  analyzers : ∀ job s', (p.prepare arguments).run s = (.ok job, s') → ∀ file ∈ job.files,
    (p.launcher (p.jobRunner job).timeout
      ((p.jobRunner job).command job.database p.catalog.composed.shown file)
      (p.jobRunner job).environment).IsOrdinary

/-- The analyzer of some file is started, and nobody can wait for it. -/
def Strands (p : Pipeline) (job : Job) (f : WaitFault) : Prop :=
  ∃ file ∈ job.files, ∃ c,
    p.launcher p.config.timeout
      ((p.jobRunner job).command job.database p.catalog.composed.shown file)
      (p.jobRunner job).environment = .process c ∧ c.waitFault = some f

/-- Under a timely launcher the time that analyzers are given is to blame. -/
theorem Strands.waitFault?_eq {job : Job} {f : WaitFault} (h : p.Strands job f)
    (hl : p.launcher.IsTimely) :
    p.config.timeout.bind waitFault? = some f := by
  obtain ⟨file, -, c, hc, hf⟩ := h
  exact (hl _ _ _ _ hc).symm.trans hf

/-- **The ways in which a run of a new pipeline ends**, in the order of its stages: its exit code,
and all that it leaves behind. What is not mentioned is as it was. `verdicts` are the sections of
the files. -/
inductive Ends (p : Pipeline) (arguments : List String) (session : Resolver.Session)
    (written : Report) :
    Outcome Nat → Progress → Prop where
  | usage (h : arguments.length ≠ 2) :
      Ends p arguments session written (.ok 1)
        { state := .failed, failedIn := some .start, error := some .usage,
          session := session, report := written }
  | missingDatabase {database target : String} (h : arguments = [database, target])
      (hdatabase : p.tree.isFile (Path.ofString database) = .ok false) :
      Ends p arguments session written (.ok 3)
        { state := .failed, failedIn := some .start,
          error := some (.missingDatabase (Path.ofString database))
          session := session, report := written }
  | noToolchain {database target : String} {e : Problem} {session' : Resolver.Session}
      (h : arguments = [database, target])
      (hdatabase : p.tree.isFile (Path.ofString database) = .ok true)
      (hends : p.resolver.EndsWith p.config.productsDir session (LintRun.report e, session'))
      (hcode : e.exitCode = 1 ∨ e.exitCode = 2) :
      Ends p arguments session written (.ok e.exitCode)
        { state := .failed, failedIn := some .argumentsValidated, error := some e
          session := session', report := written }
  | missingTarget {database target : String} {toolchain : Toolchain}
      {session' : Resolver.Session} {path : Path}
      (h : arguments = [database, target])
      (hdatabase : p.tree.isFile (Path.ofString database) = .ok true)
      (hends : p.resolver.EndsWith p.config.productsDir session (.ok toolchain, session'))
      (htarget : Target.classify p.tree target = .ok ⟨path, .invalid⟩) :
      Ends p arguments session written (.ok 2)
        { state := .failed, failedIn := some .toolchainActive, error := some (.missingTarget target)
          toolchain := some toolchain, session := session', report := written }
  | unsupportedTarget {database target : String} {toolchain : Toolchain}
      {session' : Resolver.Session} {path : Path}
      {e : Problem} (h : arguments = [database, target])
      (hdatabase : p.tree.isFile (Path.ofString database) = .ok true)
      (hends : p.resolver.EndsWith p.config.productsDir session (.ok toolchain, session'))
      (htarget : Target.classify p.tree target = .ok ⟨path, .singleFile⟩)
      (hsource : Ending.anyMatches path.name p.endings.sources = .ok false)
      (he : Ending.anyMatches path.name p.endings.headers = .ok true ∧ e = .headerFile path ∨
        Ending.anyMatches path.name p.endings.headers = .ok false ∧ e = .unknownEnding path) :
      Ends p arguments session written (.ok 1)
        { state := .failed, failedIn := some .toolchainActive, error := some e
          toolchain := some toolchain, session := session', report := written }
  /-- The first failure of an analyzer ends the run. -/
  | analyzerFailed {database target : String} {toolchain : Toolchain} {session' : Resolver.Session}
      {files : List Path} {fine : List Section} {bad : Section} {rest : List Result}
      {e : AnalyzerProblem}
      {crew : Crew}
      (h : arguments = [database, target])
      (hdatabase : p.tree.isFile (Path.ofString database) = .ok true)
      (hends : p.resolver.EndsWith p.config.productsDir session (.ok toolchain, session'))
      (htarget : Target.resolve p.tree p.endings target = .ok files)
      (hverdicts : p.verdicts ⟨Path.ofString database, toolchain, files⟩ =
        fine.map .completed ++ .completed bad :: rest)
      (hfast : p.config.failFast = true) (hfine : ∀ s ∈ fine, s.error = none)
        (hbad : bad.error = some e) :
      Ends p arguments session written (.ok 4)
        { state := .failed, failedIn := some .running, error := some (.analyzer e),
          toolchain := some toolchain
          files := files, crew := some crew, session := session', report :=
            fine.foldl Report.write written }
  /-- An analyzer that nobody can wait for ends the run where it is. -/
  | stranded {database target : String} {toolchain : Toolchain} {session' : Resolver.Session}
      {files : List Path} {fine : List Section} {f : WaitFault} {rest : List Result} {crew : Crew}
      (h : arguments = [database, target])
      (hdatabase : p.tree.isFile (Path.ofString database) = .ok true)
      (hends : p.resolver.EndsWith p.config.productsDir session (.ok toolchain, session'))
      (htarget : Target.resolve p.tree p.endings target = .ok files)
      (hverdicts : p.verdicts ⟨Path.ofString database, toolchain, files⟩ =
        fine.map .completed ++ .raised (.wait f) :: rest)
      (hstrands : p.Strands ⟨Path.ofString database, toolchain, files⟩ f)
      (hfine : p.config.failFast = true → ∀ s ∈ fine, s.error = none) :
      Ends p arguments session written (stop (.wait f))
        { state := .running, toolchain := some toolchain, files := files,
          crew := some crew, session := session'
          report := fine.foldl Report.write written }
  | done {database target : String} {toolchain : Toolchain}
      {session' : Resolver.Session} {files : List Path}
      {sections : List Section} {crew : Crew} (h : arguments = [database, target])
      (hdatabase : p.tree.isFile (Path.ofString database) = .ok true)
      (hends : p.resolver.EndsWith p.config.productsDir session (.ok toolchain, session'))
      (htarget : Target.resolve p.tree p.endings target = .ok files)
      (hverdicts : p.verdicts ⟨Path.ofString database, toolchain, files⟩ = sections.map .completed)
      (hfine : p.config.failFast = true → ∀ s ∈ sections, s.error = none) :
      Ends p arguments session written (.ok 0)
        { state := .done, toolchain := some toolchain, files := files,
          crew := some crew, session := session'
          report := sections.foldl Report.write written }

theorem checkArguments_cases (p : Pipeline) (arguments : List String) :
    (arguments.length ≠ 2 ∧ p.checkArguments arguments = report .usage) ∨
    ∃ database target, arguments = [database, target] ∧
      ((∃ f, p.tree.isFile (Path.ofString database) = .error f ∧
        p.checkArguments arguments = stop (.system f)) ∨
      (p.tree.isFile (Path.ofString database) = .ok false ∧
        p.checkArguments arguments = report (.missingDatabase (Path.ofString database))) ∨
      (p.tree.isFile (Path.ofString database) = .ok true ∧
        p.checkArguments arguments = .ok (Path.ofString database, target))) := by
  match arguments with
  | [] | [_] | _ :: _ :: _ :: _ => exact .inl ⟨by simp, rfl⟩
  | [database, target] =>
    refine .inr ⟨database, target, rfl, ?_⟩
    rw [checkArguments]
    cases hfile : p.tree.isFile (Path.ofString database) with
    | error f => exact .inl ⟨f, rfl, rfl⟩
    | ok isThere =>
      cases isThere with
      | false => exact .inr (.inl ⟨rfl, rfl⟩)
      | true => exact .inr (.inr ⟨rfl, rfl⟩)

/-- Arguments that pass their check. -/
theorem eq_of_checkArguments {database : Path} {target : String}
    (h : p.checkArguments arguments = .ok (database, target)) :
    ∃ name, arguments = [name, target] ∧ database = Path.ofString name ∧
      p.tree.isFile (Path.ofString name) = .ok true := by
  obtain ⟨-, e⟩ | ⟨name, target', hargs, ⟨f, -, e⟩ | ⟨-, e⟩ | ⟨hfile, e⟩⟩ :=
    checkArguments_cases p arguments
  all_goals
    rw [e] at h
    cases h
  exact ⟨name, hargs, rfl, hfile⟩

/-- If the arguments pass their check, every step of the resolution succeeds and the target has
files, an analysis is prepared. -/
theorem prepare_of_succeeds {database : Path} {target : String} {listing : ShellResult}
    {files : List Path} (hcheck : p.checkArguments arguments = .ok (database, target))
    (hsucceeds : p.resolver.Succeeds p.config.productsDir s.session.scripts.length listing)
    (hread : p.resolver.ListsReadable p.config.productsDir s.session.scripts.length)
    (htarget : Target.resolve p.tree p.endings target = .ok files) :
    ∃ toolchain session,
      p.resolver.EndsWith p.config.productsDir s.session (.ok toolchain, session) ∧
      (p.prepare arguments).run s = (.ok { database, toolchain, files },
        { s with
          state := .targetResolved, toolchain := some toolchain, files := files,
          session := session }) := by
  have hprepares := p.prepare_prepares arguments s
  rcases hprepare : (p.prepare arguments).run s with ⟨outcome, s'⟩
  rw [hprepare] at hprepares
  cases hprepares with
  | badArguments h => cases hcheck.symm.trans h
  | noToolchain h hends =>
    obtain ⟨scripts, last, hends, -, -⟩ := hends
    obtain ⟨toolchain, htoolchain⟩ := hsucceeds.exists_eq_ok hread hends
    cases htoolchain
  | noTarget h hends hf =>
    cases hcheck.symm.trans h
    cases htarget.symm.trans hf
  | ready h hends hf =>
    cases hcheck.symm.trans h
    cases htarget.symm.trans hf
    exact ⟨_, _, hends, rfl⟩

/-- What comes of the files of an ordinary run that is prepared: sections, and faults of waits. -/
theorem IsOrdinary.mem_verdicts (h : p.IsOrdinary arguments s) {job : Job} {s' : Progress}
    (hprepare : (p.prepare arguments).run s = (.ok job, s')) {result : Result}
    (hresult : result ∈ p.verdicts job) :
    (∃ entry, result = .completed entry) ∨
    ∃ f, p.Strands job f ∧ result = .raised (.wait f) := by
  obtain ⟨file, hfile, rfl⟩ := List.mem_map.1 hresult
  obtain ⟨entry, hentry⟩ | ⟨c, f, hc, hf, hraised⟩ := Task.verdict_of_isOrdinary
    (p.jobRunner job).context
    ((p.jobRunner job).task (p.jobSeries job) file) (h.analyzers job s' hprepare file hfile)
  · exact .inl ⟨entry, hentry⟩
  · exact .inr ⟨f, ⟨file, hfile, c, hc, hf⟩, hraised⟩

section Endings

variable {session : Resolver.Session} {written : Report}

/-- A run whose analysis is not reached. -/
theorem IsOrdinary.ends_unprepared
    (h : p.IsOrdinary arguments { session := session, report := written }) {f : Failure}
    {s' : Progress}
    (hprepares : p.Prepares arguments { session := session, report := written } (.error f) s') :
    p.Ends arguments session written (conclude (.error f, s')).1 (conclude (.error f, s')).2 := by
  cases hprepares with
  | badArguments hcheck =>
    obtain ⟨hlength, e⟩ | ⟨database, target, hargs, ⟨f, hfile, e⟩ | ⟨hfile, e⟩ | ⟨hfile, e⟩⟩ :=
      checkArguments_cases p arguments
    · cases e.symm.trans hcheck
      exact .usage hlength
    · exact absurd hfile (h.database database target hargs f)
    · cases e.symm.trans hcheck
      exact .missingDatabase hargs hfile
    · cases e.symm.trans hcheck
  | noToolchain hcheck hends =>
    obtain ⟨name, hargs, rfl, hfile⟩ := eq_of_checkArguments hcheck
    have hordinary := h.toolchain _ _ hcheck
    have hends' := hends
    obtain ⟨scripts, last, hresolution, -, -⟩ := hends'
    cases f with
    | fault f =>
      obtain ⟨ran, commands, hasks, hanswer⟩ :=
        hresolution.impossible_of_fault rfl hordinary.setup hordinary.versions
      exact absurd hanswer (hordinary.shells ran commands hasks f)
    | problem e => exact .noToolchain hargs hfile hends (hresolution.exitCode rfl)
  | noTarget hcheck hends htarget =>
    obtain ⟨name, hargs, rfl, hfile⟩ := eq_of_checkArguments hcheck
    have hresolves : Target.Resolves p.tree p.endings _ (Target.resolve p.tree p.endings _) :=
      Target.resolve_resolves p.config.sourceEndings p.config.headerEndings
        (h.target _ _ _ _ hcheck hends)
    rw [htarget] at hresolves
    cases hresolves with
    | missing hclass => exact .missingTarget hargs hfile hends hclass
    | header hclass hsource hheader =>
      exact .unsupportedTarget hargs hfile hends hclass hsource (.inl ⟨hheader, rfl⟩)
    | unknown hclass hsource hheader =>
      exact .unsupportedTarget hargs hfile hends hclass hsource (.inr ⟨hheader, rfl⟩)

/-- A run whose analysis nobody cancels. -/
theorem IsOrdinary.ends_analyzed
    (h : p.IsOrdinary arguments { session := session, report := written }) {job : Job}
    {s' : Progress} {x : Course}
    (hprepare : (p.prepare arguments).run { session := session, report := written } = (.ok job, s'))
    (hsurvey : (p.jobRunner job).survey (p.verdicts job) = (x.given, x.failure)) :
    p.Ends arguments session written (conclude (ending x.failure, s'.analyzed x.given x.crew)).1
      (conclude (ending x.failure, s'.analyzed x.given x.crew)).2 := by
  have hmem (result : Result) (hresult : result ∈ p.verdicts job) := h.mem_verdicts hprepare hresult
  have hsomething : Result.nothing ∉ p.verdicts job := fun hnothing => by
    obtain ⟨_, h⟩ | ⟨_, _, h⟩ := hmem _ hnothing <;> cases h
  have hprepares := p.prepare_prepares arguments { session := session, report := written }
  rw [hprepare] at hprepares
  cases hprepares with
  | ready hcheck hends htarget =>
    obtain ⟨name, hargs, rfl, hfile⟩ := eq_of_checkArguments hcheck
    obtain ⟨scripts, last, hresolution, hscripts, hlast⟩ := hends
    obtain ⟨sections, hverdicts, e, hfine⟩ |
      ⟨fine, result, rest, failure, hverdicts, e, hfine, hgiven⟩ :=
      survey_cases (p.jobRunner _) hsomething
    -- what was given out is what the survey of the sections says
    · obtain ⟨hx, hfailure⟩ := Prod.mk.inj (e.symm.trans hsurvey)
      rw [← hx, ← hfailure]
      exact .done hargs hfile ⟨scripts, last, hresolution, hscripts, hlast⟩ htarget hverdicts hfine
    · obtain ⟨hx, hfailure⟩ := Prod.mk.inj (e.symm.trans hsurvey)
      rw [← hx, ← hfailure]
      obtain ⟨bad, rfl⟩ | ⟨f, hstrands, rfl⟩ := hmem result (by simp [hverdicts])
      · obtain ⟨hfast, error, hbad, rfl⟩ := of_given_completed hgiven
        exact .analyzerFailed hargs hfile ⟨scripts, last, hresolution, hscripts, hlast⟩
          htarget hverdicts hfast
          (hfine hfast) hbad
      · cases hgiven
        exact .stranded hargs hfile ⟨scripts, last, hresolution, hscripts, hlast⟩
          htarget hverdicts hstrands hfine

/-- **An ordinary run that nobody cancels ends in one of the ways of `Ends`.** -/
theorem IsOrdinary.ends (h : p.IsOrdinary arguments { session := session, report := written })
    {result : Outcome Nat × Progress}
    (hruns : p.Runs (fun turn => turn.isCalm = true) arguments
      { session := session, report := written } result) :
    p.Ends arguments session written result.1 result.2 := by
  cases hruns with
  | refused hstate => exact absurd rfl hstate
  | unprepared hstate hprepare =>
    have hprepares := p.prepare_prepares arguments { session := session, report := written }
    rw [hprepare] at hprepares
    exact h.ends_unprepared hprepares
  | analyzed hstate hprepare hcalm hover =>
    exact h.ends_analyzed hprepare (Course.run_survey rfl _ hcalm hover)

end Endings

/-- Under a timely launcher a run is stranded only by a time that nobody can wait. -/
theorem Ends.waitFault?_eq {outcome : Outcome Nat} {s' : Progress} {session : Resolver.Session}
    {written : Report} (h : p.Ends arguments session written outcome s') (hl : p.launcher.IsTimely)
    {f : WaitFault} (hf : outcome = stop (.wait f)) :
    p.config.timeout.bind waitFault? = some f := by
  cases h with
  | stranded _ _ _ _ _ hstrands _ =>
    cases hf
    exact hstrands.waitFault?_eq hl
  | usage | missingDatabase | noToolchain | missingTarget | unsupportedTarget |
    analyzerFailed | done => cases hf

/-- **The outcome of a run is that of its first failing stage**, and no later stage has any effect.
Let nothing that a run of a new pipeline does be a fault, waits for analyzers left aside, and nobody
interrupt or cancel it. In whatever order its analysis goes on, it ends in one of the ways of
`Ends`: with a problem of its arguments, of the toolchain, of the target, or, if the first failure
of an analyzer ends a run, with that; else it is done, and the report has a section for each file,
or it is stranded at the first analyzer that nobody can wait for. So does the run that takes all
sections at once. Under a timely launcher a run is stranded only by a time that nobody can wait. -/
theorem outcome_is_that_of_first_failing_stage (p : Pipeline) (arguments : List String)
    (session : Resolver.Session) (written : Report)
    (h : p.IsOrdinary arguments { session := session, report := written }) :
    (∀ result,
      p.Runs (fun turn => turn.isCalm = true) arguments
        { session := session, report := written } result →
      p.Ends arguments session written result.1 result.2) ∧
    ((∀ toolchain, (p.runner toolchain).context.IsSteady) →
      p.Ends arguments session written (p.run arguments { session := session, report := written }).1
        (p.run arguments { session := session, report := written }).2) ∧
    (p.launcher.IsTimely → ∀ result,
      p.Runs (fun turn => turn.isCalm = true) arguments
          { session := session, report := written } result →
        ∀ f, result.1 = stop (.wait f) → p.config.timeout.bind waitFault? = some f) := by
  refine ⟨fun result hruns => h.ends hruns, fun hsteady => h.ends ?_,
    fun htimely result hruns f hf => (h.ends hruns).waitFault?_eq htimely hf⟩
  exact p.runs_run arguments _ _ fun turn hturn => hturn hsteady

/-- The run that takes all sections at once, if no process provokes a cancellation. -/
theorem run_of_isSteady (h : s.state = .start) {job : Job} {s' : Progress}
    (hprepare : (p.prepare arguments).run s = (.ok job, s'))
    (hsteady : (p.jobRunner job).context.IsSteady) :
    ∃ crew, p.run arguments s = conclude (ending ((p.jobRunner job).survey (p.verdicts job)).2,
      s'.analyzed ((p.jobRunner job).survey (p.verdicts job)).1 crew) := by
  have hall := all_survey (c := {}) hsteady rfl (show (p.jobSeries job).place = none from rfl)
    (one_le_jobs_of_parallel job.database p.catalog.composed.shown job.files)
  rw [run_eq h, hprepare, show (p.jobRunner job).survey (p.verdicts job) = _ from hall]
  exact ⟨_, rfl⟩

/-! ### One file -/

/-- A pipeline in whose tree there is one file to be analyzed, by a process with this conduct. -/
def oneFile (failFast : Bool) (c : Conduct) (timeout : Option Binary64 := none) : Pipeline :=
  { config :=
      { productsDir := ⟨.absolute, ["p"]⟩, version := some "v9", failFast := failFast,
        timeout := timeout }
    catalog := Catalog.curated
    tree := ⟨.directory [("db", .file [] false), ("a.cc", .file [] false),
      ("p", .directory [("setup", .file [] false)])], []⟩
    shell := fun _ _ _ => .ok { output := "\"clang\" \"v9\"\n" }
    launcher := fun _ _ _ => .process c
    shellEnvironment := []
    environment := [] }

section OneFile

variable (failFast : Bool) (c : Conduct) (timeout : Option Binary64)

theorem isFile_oneFile {name : String} (h : name = "db" ∨ name = "a.cc") :
    (oneFile failFast c timeout).tree.isFile (Path.ofString name) = .ok true := by
  rcases h with rfl | rfl
  · exact FileTree.leadsTo_of_find? Node.isFile (.file [] false) (.inr rfl) (by decide) (by decide)
      (by decide) (by cbv)
  · exact FileTree.leadsTo_of_find? Node.isFile (.file [] false) (.inr rfl) (by decide) (by decide)
      (by decide) (by cbv)

theorem isDirectory_oneFile :
    (oneFile failFast c timeout).tree.isDirectory (Path.ofString "a.cc") = .ok false :=
  FileTree.leadsTo_of_find? Node.isDirectory (.file [] false) (.inr rfl) (by decide) (by decide)
    (by decide) (by cbv)

theorem listsReadable_oneFile (before : Nat) :
    (oneFile failFast c timeout).resolver.ListsReadable
      (oneFile failFast c timeout).config.productsDir before := by
  intro listing hlisting v hv
  cases hlisting
  have hversions : Listing.versions "\"clang\" \"v9\"\n" = ["v9"] := by decide
  rw [hversions, List.mem_singleton] at hv
  subst hv
  exact (Version.exists_key_iff "v9").1 ⟨⟨[.letters ['v'], .number 9], "v9"⟩, by cbv⟩

/-- The toolchain of the pipeline can be resolved. -/
theorem succeeds_oneFile (before : Nat) :
    (oneFile failFast c timeout).resolver.Succeeds (oneFile failFast c timeout).config.productsDir
      before
      { output := "\"clang\" \"v9\"\n" } := by
  have hversions : Listing.versions "\"clang\" \"v9\"\n" = ["v9"] := by decide
  have hsetup : (oneFile failFast c timeout).tree.isFile (Resolver.setupFile ⟨.absolute, ["p"]⟩) =
      .ok true :=
    FileTree.leadsTo_of_find? Node.isFile (.file [] false) (.inl rfl) (by decide) (by decide)
      (by decide) (by cbv)
  refine ⟨⟨hsetup, _, rfl, rfl⟩, rfl, rfl, by simp [hversions], fun v hv => ?_,
    fun version _ => ⟨_, rfl, rfl⟩⟩
  obtain rfl : "v9" = v := Option.some.inj hv
  simp [hversions]

theorem resolve_oneFile :
    Target.resolve (oneFile failFast c timeout).tree (oneFile failFast c timeout).endings "a.cc" =
    .ok [⟨.relative, ["a.cc"]⟩] := by
  have hclass : Target.classify (oneFile failFast c timeout).tree "a.cc" =
      .ok ⟨Path.ofString "a.cc", .singleFile⟩ := by
    rw [Target.classify, if_neg (by decide)]
    simp only [isDirectory_oneFile, isFile_oneFile failFast c timeout (.inr rfl)]
  rw [Target.resolve, hclass]
  rfl

/-- What its analysis works on. -/
def oneFileJob : Job :=
  { database := ⟨.relative, ["db"]⟩
    toolchain := { productsDir := ⟨.absolute, ["p"]⟩, version := some "v9", status := .active }
    files := [⟨.relative, ["a.cc"]⟩] }

/-- Its analysis can be prepared. -/
theorem prepare_oneFile (s : Progress) :
    ∃ session, ((oneFile failFast c timeout).prepare ["db", "a.cc"]).run s =
      (.ok oneFileJob,
        { s with
          state := .targetResolved, toolchain := some oneFileJob.toolchain
          files := oneFileJob.files
          session := session }) := by
  have hcheck : (oneFile failFast c timeout).checkArguments ["db", "a.cc"] =
      .ok (oneFileJob.database, "a.cc") := by
    rw [checkArguments]
    simp only [isFile_oneFile failFast c timeout (.inl rfl)]
    rw [show Path.ofString "db" = oneFileJob.database by decide]
  obtain ⟨toolchain, session, ⟨scripts, last, hends, -, -⟩, hprepare⟩ :=
    prepare_of_succeeds (s := s) hcheck (succeeds_oneFile failFast c timeout _)
      (listsReadable_oneFile failFast c timeout _) (resolve_oneFile failFast c timeout)
  obtain ⟨-, listing, -, version, result, hselects, hresult, rfl⟩ := hends.succeeds rfl
  obtain rfl : version = "v9" := hselects.2
  cases hresult
  exact ⟨session, hprepare⟩

/-- Nothing that it does is a fault. -/
theorem isOrdinary_oneFile (hc : c.interrupts = false ∧ c.interruptsLate = false) (s : Progress) :
    (oneFile failFast c timeout).IsOrdinary ["db", "a.cc"] s := by
  have htested : (oneFile failFast c timeout).tree.IsTestable (Path.ofString "a.cc") := by
    refine ⟨fun f hf => ?_, fun f hf => ?_⟩
    · cases (isFile_oneFile failFast c timeout (.inr rfl)).symm.trans hf
    · cases (isDirectory_oneFile failFast c timeout).symm.trans hf
  refine ⟨fun database target h f hf => ?_,
    fun database target h => ⟨fun f hf => ?_, fun _ => ?_, ?_⟩,
    fun database target toolchain session h _ q hq => ?_, fun _ _ _ _ _ => hc⟩
  · obtain ⟨rfl, rfl⟩ : "db" = database ∧ "a.cc" = target := by simpa using h
    cases (isFile_oneFile failFast c timeout (.inl rfl)).symm.trans hf
  · cases (succeeds_oneFile failFast c timeout 0).setup.1.symm.trans hf
  · exact listsReadable_oneFile failFast c timeout _
  · rintro ran commands - f hf
    cases hf
  · obtain ⟨name, hargs, -, -⟩ := eq_of_checkArguments h
    obtain ⟨rfl, rfl⟩ : "db" = name ∧ "a.cc" = target := by simpa using hargs
    cases hq with
    | named => exact htested
    | below hpaths hmem =>
      rw [Discovery.below, isDirectory_oneFile] at hpaths
      cases hpaths
      cases hmem

end OneFile

/-- The analyzer of the only file is killed by a signal, and the first failure ends the run. -/
theorem outcome_is_that_of_failing_analyzer :
    let p := oneFile true { code := -11 }
    let s : Progress := { report := ⟨"run", "start", "", []⟩ }
    let result := p.run ["db", "a.cc"] s
    p.IsOrdinary ["db", "a.cc"] s ∧ (∀ toolchain, (p.runner toolchain).context.IsSteady) ∧
      p.Ends ["db", "a.cc"] s.session s.report result.1 result.2 ∧
      result.1 = .ok 4 ∧ result.2.failedIn = some .running ∧ result.2.report = s.report := by
  intro p s result
  have hordinary : p.IsOrdinary ["db", "a.cc"] s := isOrdinary_oneFile true _ none ⟨rfl, rfl⟩ s
  have hsteady : ∀ toolchain, (p.runner toolchain).context.IsSteady := by
    intro toolchain command c hc
    cases hc
    rfl
  have hends := (outcome_is_that_of_first_failing_stage p ["db", "a.cc"] s.session s.report
    hordinary).2.1 hsteady
  refine ⟨hordinary, hsteady, hends, ?_⟩
  obtain ⟨session, hprepare⟩ := prepare_oneFile true { code := -11 } none s
  let e : AnalyzerProblem := ⟨"a.cc", .terminated "clang-tidy" 11⟩
  have hverdicts : p.verdicts oneFileJob =
      [.completed { file := ⟨.relative, ["a.cc"]⟩, status := some (-11), error := some e }] := by
    decide
  obtain ⟨crew, hresult⟩ := run_of_isSteady rfl hprepare (hsteady oneFileJob.toolchain)
  rw [hverdicts] at hresult
  have heq : result = _ := hresult
  rw [heq]
  exact ⟨rfl, rfl, rfl⟩

/-- Ten million seconds are more than anybody can wait: the run is left while it is running, without
an exit code, without an error, and without a section for its only file. -/
theorem overlong_timeout_strands_run :
    let limit : Binary64 := ⟨0x416312D000000000⟩
    let p := oneFile false { output := some "hi\n", waitFault := waitFault? limit } (some limit)
    let s : Progress := { report := ⟨"run", "start", "", []⟩ }
    let result := p.run ["db", "a.cc"] s
    p.IsOrdinary ["db", "a.cc"] s ∧ p.config.timeout = some limit ∧
      result.1 = stop (.wait .tooLong) ∧
      result.2.state = .running ∧ result.2.failedIn = none ∧ result.2.error = none ∧
      result.2.report = s.report := by
  intro limit p s result
  have hlong : waitFault? limit = some .tooLong := by decide +kernel
  have hsteady : (p.jobRunner oneFileJob).context.IsSteady := fun command c hc => by
    cases hc
    rfl
  obtain ⟨session, hprepare⟩ :=
    prepare_oneFile false { output := some "hi\n", waitFault := waitFault? limit } (some limit) s
  have hverdicts : p.verdicts oneFileJob = [.raised (.wait .tooLong)] := by
    simp only [p, hlong]
    rfl
  obtain ⟨crew, hresult⟩ := run_of_isSteady rfl hprepare hsteady
  rw [hverdicts] at hresult
  have heq : result = _ := hresult
  rw [heq]
  exact ⟨isOrdinary_oneFile false _ _ ⟨rfl, rfl⟩ s, rfl, rfl, rfl, rfl, rfl, rfl⟩

end Pipeline
end LintRun
