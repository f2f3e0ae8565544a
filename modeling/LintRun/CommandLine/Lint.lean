import LintRun.CommandLine.Console
import LintRun.Config.Source
import LintRun.Pipeline.Basic

/-!
# CommandLine — The command

What the command does with a command line: reads the configuration, runs a pipeline, writes a summary, and tells
the user what went wrong.

* `lint`: one invocation, with all it prints and the status it exits with.
-/

namespace LintRun.CommandLine

open Analysis

/-- What an invocation depends on. -/
structure Setting where
  source : Source
  shell : Shell
  launcher : Launcher
  environment : Environment
  /-- The name of the run, and when it starts and ends. -/
  run : String
  started : String
  finished : String

/-- What an invocation leaves behind: the status it exits with unless a fault escapes, what it prints, and the
files. -/
structure Invocation where
  exit : Outcome Nat
  output : String := ""
  errors : String := ""
  tree : FileTree
  /-- The command line was refused for an option or a value. -/
  refused : Bool := false
  /-- Events of all levels are shown. -/
  verbose : Bool := false
  /-- The scripts that were run. -/
  scripts : List String := []

/-- The status of a command line that is refused, and of an interrupted run. -/
def refusedStatus : Nat := 2
def interruptedStatus : Nat := 130

def optionalValue (f : α → Value) : Option α → Value
  | some x => f x
  | none => .null

/-- What the options say about the settings. -/
def Options.overrides (o : Options) : List (String × Value) :=
  [("products_dir", optionalValue .path o.productsDir), ("clang_version", optionalValue .str o.version),
    ("jobs", optionalValue .int o.jobs), ("timeout_seconds", optionalValue .float o.timeout),
    ("fail_fast", optionalValue .bool o.failFast)]

/-- The settings for a command line. -/
def Options.settings (o : Options) (s : Source) : Outcome Config := do
  let c ← Config.load s o.config o.tag
  c.override o.overrides

/-- An invocation that ends with a problem. -/
def Invocation.failWith (i : Invocation) (p : Problem) : Invocation :=
  { i with exit := .ok p.exitCode, errors := i.errors ++ Console.problemText p }

/-- A failure before the pipeline is there: a file that is missing is told as a problem of the configuration. -/
def Invocation.failEarly (i : Invocation) (f : Failure) : Invocation :=
  match f with
  | .problem p => i.failWith p
  | .fault (.missingConfig name place) => i.failWith (.configuration (.missing name place))
  | .fault f => { i with exit := stop f }

/-- How many files the analyzer could not be run on, if there are any. -/
def failureText (r : Report) : String :=
  if r.failures = 0 then ""
  else
    Console.lines ("clang-tidy could not be run on " ++ toString r.failures ++ " of " ++
      toString r.entries.length ++ " file(s).")

/-- The end of a run that was not cut short: the summary is written, then the user is told. -/
def conclude (s : Setting) (o : Options) (p : Pipeline.Progress) (code : Nat) (i : Invocation) : Invocation :=
  let (tree, written) : FileTree × Outcome Unit :=
    match o.summary with
    | none => (i.tree, .ok ())
    | some file => Report.persist i.tree file (p.report.summary s.finished p.toolchain (some code))
  let i := { i with tree := tree }
  match written, p.error with
  | .error f, _ => { i with exit := .error f }
  | .ok (), some e => i.failWith e
  | .ok (), none => { i with exit := .ok code, errors := i.errors ++ failureText p.report }

/-- Runs the pipeline. -/
def execute (s : Setting) (o : Options) (pipeline : Pipeline) (i : Invocation) : Invocation :=
  let report : Report := { run := s.run, started := s.started }
  let (result, p) := pipeline.run o.arguments { report := report }
  let i := { i with
    output := p.report.text
    errors := i.errors ++ Console.logText o.verbose p.session.log
    scripts := p.session.scripts }
  match result with
  | .ok code => conclude s o p code i
  | .error (.fault .interrupted) =>
    { i with
      exit := .ok interruptedStatus
      errors := i.errors ++ Console.lines "Interrupted; stopped running clang-tidy." }
  | .error f => { i with exit := .error f }

/-- One invocation of the command. -/
def lint (s : Setting) (words : List String) : Invocation :=
  let i : Invocation := { exit := .ok 0, tree := s.source.tree }
  match Options.ofWords words with
  | .error f =>
    let refused := match f with
      | .unknown _ | .badValue _ _ => true
      | _ => false
    { i with exit := .ok refusedStatus, errors := Console.refusal f, refused := refused }
  | .ok o =>
    if o.arguments.length ≠ 2 then i.failWith .usage
    else
      let i := { i with verbose := o.verbose }
      match o.settings s.source with
      | .error f => i.failEarly f
      | .ok config =>
        match Pipeline.catalogOf config with
        | .error f => { i with exit := .error f }
        | .ok catalog =>
          let pipeline : Pipeline :=
            { config, catalog, tree := s.source.tree, shell := s.shell, launcher := s.launcher
              shellEnvironment := s.environment, environment := s.environment }
          execute s o pipeline i

end LintRun.CommandLine
