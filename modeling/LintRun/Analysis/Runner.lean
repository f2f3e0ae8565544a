import LintRun.Analysis.Crew
import LintRun.Toolchain.Basic

/-!
# Analysis — Runners

A runner hands files to the analyzer and gives out their sections one by one, in the order of the files. With one
job, or one file, a file is analyzed when its section is asked for; else all files are analyzed when the first
section is asked for.

* `Runner.command`: the command for a file.
* `Runner.next`: the next section, or the end, or the failure that the series ends with.
* `Runner.all`: all sections that are left.
-/

namespace LintRun

open Analysis

/-- How files are analyzed. -/
structure Runner where
  analyzer : String := "clang-tidy"
  headerFilter : String := ".*"
  jobs : Nat := 1
  timeout : Option Binary64 := none
  failFast : Bool := false
  environment : Environment := []
  launcher : Launcher

namespace Runner

/-- The environment of the analyzer: what setting up a toolchain changes is laid over the inherited one. -/
def environmentFor (base : Environment) (toolchain : Option Toolchain) : Environment :=
  match toolchain with
  | some t => base.overlay t.environment
  | none => base

/-- The command for a file. -/
def command (r : Runner) (database : Path) (checks : String) (file : Path) : List String :=
  [r.analyzer, "-p=" ++ database.text, "-checks=" ++ checks, "-header-filter=" ++ r.headerFilter, file.text]

def context (r : Runner) : Context :=
  { launcher := r.launcher, analyzer := r.analyzer, environment := r.environment, timeout := r.timeout }

/-- A series of files. Files that are still to come, and for a parallel series the place of its first task, once
it has begun. -/
structure Series where
  database : Path
  checks : String
  files : List Path
  place : Option Nat := none
  isOver : Bool := false
  parallel : Bool

/-- A series of files to be analyzed. -/
def series (r : Runner) (database : Path) (checks : String) (files : List Path) : Series :=
  { database, checks, files, parallel := 1 < r.jobs && 1 < files.length }

def task (r : Runner) (s : Series) (file : Path) : Task :=
  { file := file, command := r.command s.database s.checks file }

def Series.over (s : Series) : Series := { s with isOver := true, files := [] }

/-- A section is given out, unless its error ends the series at once. -/
def checked (r : Runner) (s : Section) : Outcome Section :=
  match s.error with
  | some e => if r.failFast then report (.analyzer e) else .ok s
  | none => .ok s

/-- What a result leads to: a section, the end, or a failure. -/
def given (r : Runner) : Result → Outcome (Option Section)
  | .nothing => .ok none
  | .completed s => (r.checked s).map some
  | .raised f => stop f

/-- Whether a series ends with an answer. -/
def ends : Outcome (Option Section) → Bool
  | .ok (some _) => false
  | _ => true

def isInterruption : Outcome α → Bool
  | .error (.fault .interrupted) => true
  | _ => false

/-- An interruption cancels the run. -/
def onInterruption (c : Crew) (answer : Outcome (Option Section)) : Crew :=
  if isInterruption answer then c.cancel else c

/-- Whether so many tasks from a place on are finished. -/
def isSettled (c : Crew) (first count : Nat) : Bool :=
  ((c.tasks.drop first).take count).all fun t => t.stage.isFinished

/-- A parallel series that ends cancels the run unless all its tasks are finished. -/
def leave (c : Crew) (first count : Nat) : Crew := if isSettled c first count then c else c.cancel

/-- All tasks of a parallel series, one after the other. -/
def driveAll (ctx : Context) : List Nat → Crew → Crew
  | [], c => c
  | i :: rest, c => driveAll ctx rest (c.drive ctx i)

/-- Begins a parallel series: the place of its first task. -/
def enter (r : Runner) (c : Crew) (s : Series) : Crew × Nat :=
  match s.place with
  | some i => (c, i)
  | none =>
    let first := c.tasks.length
    let c := c.enlist (s.files.map (r.task s))
    (driveAll r.context ((List.range s.files.length).map (first + ·)) c, first)

/-- The next section of a series. -/
def next (r : Runner) (c : Crew) (s : Series) : Outcome (Option Section) × Crew × Series :=
  match s.files with
  | [] => (.ok none, c, s.over)
  | file :: rest =>
    if s.parallel then
      let (c, i) := r.enter c s
      let answer := r.given (c.result i)
      if ends answer then (answer, leave (onInterruption c answer) i s.files.length, s.over)
      else (answer, c, { s with files := rest, place := some (i + 1) })
    else
      let i := c.tasks.length
      let c := (c.enlist [r.task s file]).drive r.context i
      let answer := r.given (c.result i)
      if ends answer then (answer, onInterruption c answer, s.over)
      else (answer, c, { s with files := rest })

/-- Gives up a series. -/
def close (c : Crew) (s : Series) : Crew × Series :=
  match s.place with
  | some i => (if s.parallel then leave c i s.files.length else c, s.over)
  | none => (c, s.over)

/-- The sections that are left, and the failure that the series ends with, if it does. -/
def allFrom (r : Runner) : Nat → Crew → Series → List Section × Option Failure × Crew × Series
  | 0, c, s => ([], none, c, s)
  | n + 1, c, s =>
    match r.next c s with
    | (.ok none, c, s) => ([], none, c, s)
    | (.error f, c, s) => ([], some f, c, s)
    | (.ok (some entry), c, s) =>
      let (sections, failure, c, s) := allFrom r n c s
      (entry :: sections, failure, c, s)

def all (r : Runner) (c : Crew) (s : Series) : List Section × Option Failure × Crew × Series :=
  r.allFrom (s.files.length + 1) c s

end Runner
end LintRun
