import LintRun.Analysis.Course
import LintRun.Pipeline.Basic

/-!
# Pipeline — Courses

All that a run may come to while its analysis goes on in some order. The stages before it leave nothing open.

* `Pipeline.prepare`: the stages before the analysis.
* `Pipeline.conclude`: what becomes of a run that has come to its end or to a failure.
* `Pipeline.Runs`: a run whose analysis goes on in some order of turns.
-/

namespace LintRun.Pipeline

open Analysis Runner

/-- What an analysis works on. -/
structure Job where
  database : Path
  toolchain : Toolchain
  files : List Path

/-- The stages before the analysis. -/
def prepare (p : Pipeline) (arguments : List String) : Act Job := do
  let (database, target) ← lift (p.checkArguments arguments)
  enter .argumentsValidated
  let toolchain ← p.setUp
  enter .toolchainActive
  let files ← p.resolveTarget target
  pure { database, toolchain, files }

def jobRunner (p : Pipeline) (job : Job) : Runner := p.runner job.toolchain

def jobSeries (p : Pipeline) (job : Job) : Series :=
  (p.jobRunner job).series job.database p.catalog.composed.shown job.files

/-- The progress after an analysis that has given out these sections. -/
def Progress.analyzed (s : Progress) (sections : List Section) (crew : Crew) : Progress :=
  let s := s.enter .running
  { s with
    crew := some crew
    report := sections.foldl Report.write s.report
    session := { s.session with log := s.session.log ++ notes crew } }

/-- A failure, or none. -/
def ending : Option Failure → Outcome Unit
  | some f => .error f
  | none => .ok ()

/-- What becomes of a run that has come to its end or to a failure. -/
def conclude : Outcome Unit × Progress → Outcome Nat × Progress
  | (.ok (), s) => (.ok 0, s.enter .done)
  | (.error (.problem e), s) => (.ok e.exitCode, s.fail (some e))
  | (.error (.fault .interrupted), s) => (stop .interrupted, s.fail none)
  | (.error (.fault f), s) => (stop f, s)

/-- An analysis in some order of turns. -/
def course (p : Pipeline) (job : Job) (turns : List Turn) : Course :=
  (Course.start {} (p.jobSeries job)).run (p.jobRunner job) turns

/-- **A run of a pipeline**, and what it comes to. Its analysis goes on in any order of turns of some kind. -/
inductive Runs (p : Pipeline) (kind : Turn → Prop) (arguments : List String) (s : Progress) :
    Outcome Nat × Progress → Prop
  /-- A pipeline that has run already. -/
  | refused (h : s.state ≠ .start) : Runs p kind arguments s (stop .alreadyRun, s)
  | unprepared {f : Failure} {s' : Progress} (h : s.state = .start)
      (hprepare : (p.prepare arguments).run s = (.error f, s')) :
      Runs p kind arguments s (conclude (.error f, s'))
  | analyzed {job : Job} {s' : Progress} {turns : List Turn} (h : s.state = .start)
      (hprepare : (p.prepare arguments).run s = (.ok job, s')) (hkind : ∀ turn ∈ turns, kind turn)
      (hover : (p.course job turns).phase = .over) :
      Runs p kind arguments s
        (conclude (ending (p.course job turns).failure,
          s'.analyzed (p.course job turns).given (p.course job turns).crew))

end LintRun.Pipeline
