import LintRun.Analysis.Task

/-!
# Analysis — Crews

Several tasks under one flag, and whoever cancels them. Tasks and cancellers take their steps in any order; a run
is a list of moves.

* `Crew.step`, `Crew.run`: one move, and a list of them.
* `Crew.cancel`: all moves of a canceller at once.
* `Crew.drive`: the moves of one task until it is finished, with the cancellations that its process provokes.
-/

namespace LintRun.Analysis

/-- Somebody who cancels: raises the flag, looks which processes are tracked, and kills those that are alive. -/
inductive Canceller
  | idle
  | flagged
  | killing (targets : List Nat)
  deriving DecidableEq, Repr

/-- Whether a canceller has raised the flag. -/
def Canceller.hasBegun : Canceller → Bool
  | .idle => false
  | _ => true

/-- Whether a canceller has done all it does. -/
def Canceller.isDone : Canceller → Bool
  | .killing [] => true
  | _ => false

structure Crew where
  tasks : List Task := []
  cancellers : List Canceller := []
  history : List Effect := []
  deriving DecidableEq, Repr

/-- A step of a task or of a canceller, by its position, the end of a task's process, or a new canceller. -/
inductive Move
  | work (task : Nat)
  | exit (task : Nat)
  | call
  | cancel (canceller : Nat)
  deriving DecidableEq, Repr

namespace Crew

/-- The flag. Nobody takes it down, so it is up once a canceller has begun. -/
def cancelled (c : Crew) : Bool := c.cancellers.any Canceller.hasBegun

def stage? (c : Crew) (i : Nat) : Option Stage := c.tasks[i]?.map Task.stage

def process? (c : Crew) (i : Nat) : Option Process := (c.stage? i).bind Stage.process?

def result? (c : Crew) (i : Nat) : Option Result := (c.stage? i).bind Stage.result?

/-- The tasks whose processes are tracked. -/
def tracked (c : Crew) : List Nat :=
  (List.range c.tasks.length).filter fun i => (c.stage? i).any Stage.isTracked

def setTask (c : Crew) (i : Nat) (t : Task) : Crew := { c with tasks := c.tasks.set i t }

def add (c : Crew) (effects : List Effect) : Crew := { c with history := c.history ++ effects }

/-- The next step of a task. -/
def work (ctx : Context) (c : Crew) (i : Nat) : Crew :=
  match c.tasks[i]? with
  | none => c
  | some t =>
    let (t, effects) := t.advance ctx c.cancelled
    (c.setTask i t).add effects

/-- The process of a task ends, at any moment; one that will run out of time does not end by itself. -/
def exit (ctx : Context) (c : Crew) (i : Nat) : Crew :=
  match c.tasks[i]? with
  | none => c
  | some t =>
    if t.stage.process?.any fun p => !Task.expires ctx p then
      c.setTask i { t with stage := t.stage.mapProcess Process.exit }
    else c

/-- Kills the process of a task unless it has ended. -/
def kill (c : Crew) (i : Nat) : Crew :=
  match c.tasks[i]? with
  | none => c
  | some t =>
    match t.stage.process? with
    | none => c
    | some p =>
      if p.exited then c
      else (c.setTask i { t with stage := t.stage.mapProcess (Process.kill .cancellation) }).add
        [.noted (.processKilled 0), .killed t.file]

/-- Somebody starts to cancel. -/
def call (c : Crew) : Crew := { c with cancellers := c.cancellers ++ [.idle] }

/-- Whether a canceller has done all it does, by its position. -/
def hasCancelled (c : Crew) (k : Nat) : Bool := c.cancellers[k]?.any Canceller.isDone

/-- The next step of a canceller. -/
def cancelStep (c : Crew) (k : Nat) : Crew :=
  match c.cancellers[k]? with
  | some .idle => { c with cancellers := c.cancellers.set k .flagged }
  | some .flagged => { c with cancellers := c.cancellers.set k (.killing c.tracked) }
  | some (.killing (i :: rest)) => ({ c with cancellers := c.cancellers.set k (.killing rest) }).kill i
  | _ => c

def step (ctx : Context) (c : Crew) : Move → Crew
  | .work i => c.work ctx i
  | .exit i => c.exit ctx i
  | .call => c.call
  | .cancel k => c.cancelStep k

/-- A run: its moves one after the other. -/
def run (ctx : Context) (c : Crew) (moves : List Move) : Crew := moves.foldl (step ctx) c

/-- All that a new canceller does, without anybody coming between. -/
def cancel (c : Crew) : Crew := c.tracked.foldl kill { c with cancellers := c.cancellers ++ [.killing []] }

/-- Whether the process of a waiting task is about to end within its time. -/
def aboutToEnd (ctx : Context) (p : Process) : Bool :=
  (p.conduct.raises? false).isNone && !Task.expires ctx p

/-- Somebody cancels at the moment that the process of a task provokes: when it is started, while it runs, or when
it has ended, be it by itself or after its time was over. -/
def provoke (ctx : Context) (c : Crew) (i : Nat) : Crew :=
  match c.stage? i with
  | some (.spawned p) => if p.conduct.cancelled = some .start then c.cancel else c
  | some (.waiting p expired) =>
    match p.conduct.cancelled with
    | some .run => if !expired && aboutToEnd ctx p then c.cancel else c
    | some .exit => if expired || aboutToEnd ctx p then (c.exit ctx i).cancel else c
    | _ => c
  | _ => c

/-- The number of steps after which every task is finished. -/
def stepLimit : Nat := 8

/-- So many steps of one task, each after what its process provokes. -/
def driveFor (ctx : Context) (i : Nat) : Nat → Crew → Crew
  | 0, c => c
  | n + 1, c => driveFor ctx i n ((c.provoke ctx i).work ctx i)

/-- One task from its beginning to its end. -/
def drive (ctx : Context) (c : Crew) (i : Nat) : Crew := driveFor ctx i stepLimit c

/-- A task that has not begun will not begin any more. -/
def withdraw (c : Crew) (i : Nat) : Crew :=
  match c.tasks[i]? with
  | some t => if t.stage = .queued then c.setTask i { t with stage := .finished none .nothing } else c
  | none => c

/-- More tasks at the end. -/
def enlist (c : Crew) (tasks : List Task) : Crew := { c with tasks := c.tasks ++ tasks }

/-- The result of a task that is finished. -/
def result (c : Crew) (i : Nat) : Result := (c.result? i).getD .nothing

end Crew
end LintRun.Analysis
