import LintRun.Analysis.Runner
import LintRun.Checks.Catalog
import LintRun.Checks.Curated
import LintRun.Config.Basic
import LintRun.Report.Summary
import LintRun.Target.Basic
import LintRun.Toolchain.Resolver

/-!
# Pipeline — Stages

A run of the tool passes through its stages in order: the arguments are checked, a toolchain is set up, the target
is resolved, the files are analyzed. The first failure ends it.

* `Pipeline.run`: the exit code of a run. A pipeline runs once.
* `Progress`: how far a pipeline has come and what it has done.
-/

namespace LintRun

open Analysis

namespace Pipeline

inductive State
  | start
  | argumentsValidated
  | toolchainActive
  | targetResolved
  | running
  | done
  | failed
  deriving DecidableEq, Repr

def State.text : State → String
  | .start => "start"
  | .argumentsValidated => "args_validated"
  | .toolchainActive => "toolchain_active"
  | .targetResolved => "target_resolved"
  | .running => "running"
  | .done => "done"
  | .failed => "failed"

/-- How far a pipeline has come. The crew is there once the analysis has begun. -/
structure Progress where
  state : State := .start
  failedIn : Option State := none
  error : Option Problem := none
  toolchain : Option Toolchain := none
  files : List Path := []
  crew : Option Crew := none
  session : Resolver.Session := {}
  report : Report

end Pipeline

/-- What a run depends on: its settings and checks, the files around it, and how shells and analyzers behave. -/
structure Pipeline where
  config : Config
  catalog : Catalog
  tree : FileTree
  shell : Shell
  launcher : Launcher
  /-- The environment that shells start from. -/
  shellEnvironment : Environment
  /-- The environment that analyzers inherit. -/
  environment : Environment

namespace Pipeline

/-- The checks of a configuration: the curated ones and its own. -/
def catalogOf (c : Config) : Outcome Catalog :=
  Catalog.curated.extend (Config.texts c.extraRequired) (Config.texts c.extraOptional)

/-- What sets up the toolchain. Shells are handed texts of characters, so the texts of the configuration as they are
shown. -/
def resolver (p : Pipeline) : Resolver :=
  { product := p.config.product.shown
    pinned := p.config.version.map RawText.shown
    environment := p.shellEnvironment
    shell := p.shell
    tree := p.tree }

def endings (p : Pipeline) : FileEndings :=
  ⟨p.config.sourceEndings.map .text, p.config.headerEndings.map .text⟩

/-- What analyzes the files. Analyzers are handed texts of characters, too. -/
def runner (p : Pipeline) (toolchain : Toolchain) : Runner :=
  { analyzer := p.config.analyzer.shown
    headerFilter := p.config.headerFilter.shown
    jobs := max 1 p.config.jobs
    timeout := p.config.timeout
    failFast := p.config.failFast
    environment := Runner.environmentFor p.environment (some toolchain)
    launcher := p.launcher }

abbrev Act (α : Type) := ExceptT Failure (StateM Progress) α

def lift : Outcome α → Act α
  | .ok x => pure x
  | .error f => throw f

def noteAll (events : List Event) : Act Unit :=
  modify fun s => { s with session := { s.session with log := s.session.log ++ events } }

/-- Notes that a state is entered. -/
def Progress.enter (s : Progress) (state : State) : Progress :=
  { s with
    state := state
    session := { s.session with log := s.session.log ++ [.stateEntered s.state.text state.text] } }

def enter (state : State) : Act Unit := modify fun s => s.enter state

/-- The two arguments: a database that is there, and the name of a target. -/
def checkArguments (p : Pipeline) (arguments : List String) : Outcome (Path × String) :=
  match arguments with
  | [database, target] =>
    let file := Path.ofString database
    match p.tree.isFile file with
    | .error f => stop (.system f)
    | .ok true => .ok (file, target)
    | .ok false => report (.missingDatabase file)
  | _ => report .usage

/-- Sets up the toolchain. -/
def setUp (p : Pipeline) : Act Toolchain := do
  let (result, session) := (p.resolver.resolve p.config.productsDir).run (← get).session
  modify fun s => { s with session := session }
  let toolchain ← lift result
  modify fun s => { s with toolchain := some toolchain }
  pure toolchain

/-- Resolves the target; a target without files is worth a warning. -/
def resolveTarget (p : Pipeline) (target : String) : Act (List Path) := do
  let files ← lift (Target.resolve p.tree p.endings target)
  modify fun s => { s with files := files }
  enter .targetResolved
  if files.isEmpty then noteAll [.nothingFound target]
  pure files

/-- The events that the tasks of a crew noted. -/
def notes (c : Crew) : List Event :=
  c.history.filterMap fun
    | .noted e => some e
    | _ => none

/-- Analyzes the files and writes a section for each. -/
def analyze (p : Pipeline) (toolchain : Toolchain) (database : Path) (files : List Path) : Act Unit := do
  let runner := p.runner toolchain
  modify fun s => { s with crew := some {} }
  enter .running
  let (sections, failure, crew, _) := runner.all {} (runner.series database p.catalog.composed.shown files)
  modify fun s => { s with crew := some crew, report := sections.foldl Report.write s.report }
  noteAll (notes crew)
  match failure with
  | some f => throw f
  | none => pure ()

/-- All stages in order. -/
def stages (p : Pipeline) (arguments : List String) : Act Unit := do
  let (database, target) ← lift (p.checkArguments arguments)
  enter .argumentsValidated
  let toolchain ← p.setUp
  enter .toolchainActive
  let files ← p.resolveTarget target
  p.analyze toolchain database files

/-- A pipeline that failed cancels its analysis. -/
def Progress.fail (s : Progress) (error : Option Problem) : Progress :=
  { s with state := .failed, failedIn := some s.state, error := error, crew := s.crew.map Crew.cancel }

/-- Runs a pipeline that has not run yet. A problem decides the exit code; an interruption fails the pipeline and
goes on; any other fault leaves it where it is. -/
def run (p : Pipeline) (arguments : List String) (s : Progress) : Outcome Nat × Progress :=
  if s.state ≠ .start then (stop .alreadyRun, s)
  else
    match (p.stages arguments).run s with
    | (.ok (), s) => (.ok 0, s.enter .done)
    | (.error (.problem e), s) => (.ok e.exitCode, s.fail (some e))
    | (.error (.fault .interrupted), s) => (stop .interrupted, s.fail none)
    | (.error (.fault f), s) => (stop f, s)

end Pipeline
end LintRun
