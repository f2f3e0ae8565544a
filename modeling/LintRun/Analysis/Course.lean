import LintRun.Analysis.Runner

/-!
# Analysis — Courses

All that can happen while somebody takes the sections of a series one by one. The tasks go on in any order that the
number of jobs allows, processes end, others cancel, and the one who takes the sections does so in between.

* `Course.step`, `Course.run`: one turn, and a list of them.
* `Course.proceed`: the next step of the one who takes the sections.
* `Course.mayWork`: which tasks may take their next step. Without parallel jobs it is the one whose result is waited
  for; else a task that has begun, or the first that has not while fewer than `jobs` are at work.
-/

namespace LintRun.Runner

open Analysis

/-- Where the one who takes the sections stands. An interruption is handled by a canceller, and whoever leaves a
parallel series with unfinished tasks stops them by another one, withdraws those that have not begun and waits for
the others. -/
inductive Phase
  | asking
  | waiting
  | handling (canceller : Nat)
  | leaving
  | stopping (canceller : Nat)
  | withdrawing (file : Nat)
  | joining
  | over
  deriving DecidableEq, Repr

/-- How far a series has come. -/
structure Course where
  series : Series
  crew : Crew
  /-- The place of the first task. -/
  first : Nat
  given : List Section := []
  failure : Option Failure := none
  phase : Phase := .asking

/-- A turn of the one who takes the sections, or a move of the crew and its cancellers. -/
inductive Turn
  | taker
  | crew (m : Move)
  deriving DecidableEq, Repr

/-- Whether a turn is no part of a cancellation from outside. -/
def Turn.isCalm : Turn → Bool
  | .crew .call | .crew (.cancel _) => false
  | _ => true

namespace Course

/-- A series that nobody has asked for a section yet. -/
def start (c : Crew) (s : Series) : Course := { series := s, crew := c, first := c.tasks.length }

/-- The place of the task whose section is next. -/
def current (x : Course) : Nat := x.first + x.given.length

/-- The tasks from the first one on. -/
def tasks (x : Course) : List Task := x.crew.tasks.drop x.first

def isSettled (x : Course) : Bool := Runner.isSettled x.crew x.first x.series.files.length

/-- The number of tasks at work. -/
def busy (x : Course) : Nat := x.tasks.countP fun t => t.stage.isBusy

def mayWork (r : Runner) (x : Course) (i : Nat) : Bool :=
  if x.series.parallel then
    x.first ≤ i &&
      (x.crew.stage? i ≠ some .queued ||
        (x.tasks.take (i - x.first)).all (fun t => t.stage ≠ .queued) && x.busy < r.jobs)
  else x.phase = .waiting && i = x.current

/-- No section is asked for any more. -/
def finish (x : Course) : Course := { x with phase := if x.series.parallel then .leaving else .over }

/-- The tasks that begin when a section is asked for. -/
def recruits (r : Runner) (x : Course) (file : Path) : List Task :=
  if !x.series.parallel then [r.task x.series file]
  else if x.given.isEmpty then x.series.files.map (r.task x.series)
  else []

/-- Asks for the next section, if any is left. -/
def ask (r : Runner) (x : Course) : Course :=
  match x.series.files[x.given.length]? with
  | none => x.finish
  | some file => { x with crew := x.crew.enlist (x.recruits r file), phase := .waiting }

/-- The series ends with a failure. -/
def fail (f : Failure) (x : Course) : Course :=
  let x := { x with failure := some f }
  if isInterruption (.error f : Outcome Unit) then
    { x with crew := x.crew.call, phase := .handling x.crew.cancellers.length }
  else x.finish

/-- Takes the section that is waited for, once it is there. -/
def take (r : Runner) (x : Course) : Course :=
  match x.crew.result? x.current with
  | none => x
  | some result =>
    match r.given result with
    | .ok (some s) => { x with given := x.given ++ [s], phase := .asking }
    | .ok none => x.finish
    | .error f => x.fail f

/-- The next step of the one who takes the sections. -/
def proceed (r : Runner) (x : Course) : Course :=
  match x.phase with
  | .asking => x.ask r
  | .waiting => x.take r
  | .handling k => if x.crew.hasCancelled k then x.finish else { x with crew := x.crew.cancelStep k }
  | .leaving =>
    if x.isSettled then { x with phase := .over }
    else { x with crew := x.crew.call, phase := .stopping x.crew.cancellers.length }
  | .stopping k =>
    if x.crew.hasCancelled k then { x with phase := .withdrawing 0 }
    else { x with crew := x.crew.cancelStep k }
  | .withdrawing j =>
    if j < x.series.files.length then
      { x with crew := x.crew.withdraw (x.first + j), phase := .withdrawing (j + 1) }
    else { x with phase := .joining }
  | .joining => if x.isSettled then { x with phase := .over } else x
  | .over => x

def step (r : Runner) (x : Course) : Turn → Course
  | .taker => x.proceed r
  | .crew (.work i) => if x.mayWork r i then { x with crew := x.crew.work r.context i } else x
  | .crew m => { x with crew := x.crew.step r.context m }

/-- The turns of a course, one after the other. -/
def run (r : Runner) (x : Course) (turns : List Turn) : Course := turns.foldl (step r) x

end Course
end LintRun.Runner
