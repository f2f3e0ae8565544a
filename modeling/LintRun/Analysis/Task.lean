import LintRun.Analysis.Process
import LintRun.Log.Event
import LintRun.Report.Summary

/-!
# Analysis — Tasks

The analysis of one file, in steps that nothing can come between: look at the flag, start the process, keep track
of it, look at the flag again, wait, stop keeping track, conclude.

* `Task.advance`: the next step. The flag is all that a task sees of the others.
* `Stage.isTracked`: the stages in which somebody who cancels finds the process.
-/

namespace LintRun.Analysis

/-- What the steps of a run leave behind, in order. -/
inductive Effect
  | spawned (file : Path) (command : List String)
  | killed (file : Path)
  | noted (e : Event)
  deriving DecidableEq, Repr

/-- What comes of a task: nothing if it was cancelled. -/
inductive Result
  | nothing
  | completed (s : Section)
  | raised (f : Fault)
  deriving DecidableEq, Repr

/-- How a wait is over: the process has ended, within its time or not, or a fault has ended the wait. -/
inductive Departure
  | ended (expired : Bool)
  | raised (f : Fault)
  deriving DecidableEq, Repr

/-- How far a task has come. -/
inductive Stage
  | queued
  | cleared
  | spawned (p : Process)
  | tracked (p : Process)
  | waiting (p : Process) (expired : Bool)
  | left (p : Process) (how : Departure)
  | concluding (p : Process) (expired : Bool)
  | finished (p : Option Process) (r : Result)
  deriving DecidableEq, Repr

namespace Stage

def process? : Stage → Option Process
  | .spawned p | .tracked p | .waiting p _ | .left p _ | .concluding p _ => some p
  | .finished p _ => p
  | .queued | .cleared => none

def result? : Stage → Option Result
  | .finished _ r => some r
  | _ => none

def isFinished (s : Stage) : Bool := s.result?.isSome

/-- Whether a task has begun and is not finished. -/
def isBusy (s : Stage) : Bool := s ≠ .queued && !s.isFinished

def isTracked : Stage → Bool
  | .tracked _ | .waiting _ _ | .left _ _ => true
  | _ => false

def mapProcess (f : Process → Process) : Stage → Stage
  | .spawned p => .spawned (f p)
  | .tracked p => .tracked (f p)
  | .waiting p e => .waiting (f p) e
  | .left p how => .left (f p) how
  | .concluding p e => .concluding (f p) e
  | .finished p r => .finished (p.map f) r
  | s => s

end Stage

/-- What all tasks of a run have in common. -/
structure Context where
  launcher : Launcher
  analyzer : String
  environment : Environment
  timeout : Option Binary64

structure Task where
  file : Path
  command : List String
  stage : Stage := .queued
  deriving DecidableEq, Repr

namespace Task

/-- The section of a file whose analyzer could not be started. -/
def unstarted (ctx : Context) (file : Path) (f : SystemFault) : Section :=
  { file := file, error := some ⟨file.text, .notStarted ctx.analyzer f⟩ }

/-- What is wrong with how a process ended; running out of time comes first. -/
def complaint (ctx : Context) (p : Process) (expired : Bool) : Option AnalyzerCause :=
  match expired, ctx.timeout with
  | true, some limit => some (.timedOut ctx.analyzer limit)
  | _, _ => if p.status < 0 then some (.terminated ctx.analyzer (-p.status)) else none

/-- The section of a file whose process has ended. -/
def concluded (ctx : Context) (file : Path) (p : Process) (expired : Bool) : Section :=
  { file := file
    output := p.conduct.output.getD ""
    status := some p.status
    error := (complaint ctx p expired).map fun cause => ⟨file.text, cause⟩ }

/-- Whether a process that runs now will run out of time. -/
def expires (ctx : Context) (p : Process) : Bool :=
  p.conduct.hangs && ctx.timeout.isSome && !p.isStruck && !p.exited

/-- The next step of a task, with what it leaves behind. -/
def advance (ctx : Context) (cancelled : Bool) (t : Task) : Task × List Effect :=
  match t.stage with
  | .queued => ({ t with stage := if cancelled then .finished none .nothing else .cleared }, [])
  | .cleared =>
    let stage := match ctx.launcher ctx.timeout t.command ctx.environment with
      | .refused f => .finished none (.completed (unstarted ctx t.file f))
      | .impossible f => .finished none (.raised f)
      | .process c => .spawned { conduct := c }
    ({ t with stage := stage }, [.spawned t.file t.command])
  | .spawned p => ({ t with stage := .tracked p }, [])
  | .tracked p =>
    if cancelled then ({ t with stage := .waiting (p.kill .cancellation) false }, [.killed t.file])
    else ({ t with stage := .waiting p false }, [])
  | .waiting p expired =>
    match p.conduct.raises? expired with
    | some f => ({ t with stage := .left p (.raised f) }, [])
    | none =>
      if !expired && expires ctx p then ({ t with stage := .waiting (p.kill .expiry) true }, [.killed t.file])
      else ({ t with stage := .left p.exit (.ended expired) }, [])
  | .left p (.ended expired) => ({ t with stage := .concluding p expired }, [])
  | .left p (.raised f) => ({ t with stage := .finished (some p) (.raised f) }, [])
  | .concluding p expired =>
    if cancelled && p.status < 0 then ({ t with stage := .finished (some p) .nothing }, [])
    else
      ({ t with stage := .finished (some p) (.completed (concluded ctx t.file p expired)) },
        [.noted (.fileFinished t.file p.status)])
  | .finished _ _ => (t, [])

end Task
end LintRun.Analysis
