import LintRun.Analysis.Runner

/-!
# Analysis — Sessions

What a caller does with one runner over time: begins series, makes demands on them, and cancels the run. Several series
may be open at once, and processes need not behave alike from one request to the next.

* `Demand.meet`: what a demand on a series leads to.
* `Session.serve`, `Session.run`: one request, and a list of them.
* `Session.record`: what requests were answered, and what they left behind.
* `Request.alone`: a request for one series, as if it were the only one.
-/

namespace LintRun.Runner

open Analysis

/-- What a caller may demand of a series: its next section, all that are left, or nothing any more. -/
inductive Demand
  | next
  | all
  | close
  deriving DecidableEq

/-- Series are numbered in the order in which they begin. -/
inductive Wish
  | begins (database : Path) (checks : String) (files : List Path)
  | demand (series : Nat) (d : Demand)
  | cancel

/-- What a caller wants, and how processes behave meanwhile. -/
structure Request where
  launcher : Launcher
  wish : Wish

inductive Reply
  | done
  | answer (a : Outcome (Option Section))
  | sections (given : List Section) (failure : Option Failure)

/-- The number of sections that were asked for. Whoever takes all of them asks once more than there are. -/
def Reply.asked : Reply → Nat
  | .done => 0
  | .answer _ => 1
  | .sections given _ => given.length + 1

/-- What a demand on a series leads to. -/
def Demand.meet (r : Runner) (c : Crew) (s : Series) : Demand → Reply × Crew × Series
  | .next =>
    let (answer, c, s) := r.next c s
    (.answer answer, c, s)
  | .all =>
    let (given, failure, c, s) := r.all c s
    (.sections given failure, c, s)
  | .close => (.done, Runner.close c s)

/-- Two launchers under which the processes for the files of a series behave alike. -/
def Series.TreatedAlike (r : Runner) (s : Series) (l l' : Launcher) : Prop :=
  ∀ file ∈ s.files, l r.timeout (r.command s.database s.checks file) r.environment =
    l' r.timeout (r.command s.database s.checks file) r.environment

namespace Request

/-- The series that a request makes a demand on. -/
def target? (q : Request) : Option Nat :=
  match q.wish with
  | .demand k _ => some k
  | _ => none

/-- A demand on series `k`, as if there were no other one. -/
def alone? (k : Nat) (q : Request) : Option Request :=
  match q.wish with
  | .demand j d => if j = k then some { q with wish := .demand 0 d } else none
  | _ => none

/-- Whether a request asks for sections. -/
def asks (q : Request) : Bool :=
  match q.wish with
  | .demand _ .next | .demand _ .all => true
  | _ => false

/-- Two requests for the same, between which the processes for the files of a series behave alike. -/
def Resembles (r : Runner) (s : Series) (q q' : Request) : Prop :=
  q.wish = q'.wish ∧ s.TreatedAlike r q.launcher q'.launcher

end Request

/-- The crew of a runner and the series that were begun. -/
structure Session where
  crew : Crew := {}
  opened : List Series := []

/-- The files whose processes were to be started, in order. -/
def attempts (effects : List Effect) : List Path :=
  effects.filterMap fun
    | .spawned file _ => some file
    | _ => none

/-- A request that was served, what it was answered, and what it left behind. -/
structure Served where
  request : Request
  reply : Reply
  effects : List Effect

namespace Session

def serve (r : Runner) (x : Session) (q : Request) : Reply × Session :=
  let r := { r with launcher := q.launcher }
  match q.wish with
  | .begins database checks files => (.done, { x with opened := x.opened ++ [r.series database checks files] })
  | .demand k d =>
    match x.opened[k]? with
    | none => (.done, x)
    | some s =>
      let (reply, crew, s) := d.meet r x.crew s
      (reply, { crew, opened := x.opened.set k s })
  | .cancel => (.done, { x with crew := x.crew.cancel })

/-- Requests one after the other. -/
def run (r : Runner) (x : Session) (requests : List Request) : Session :=
  requests.foldl (fun x q => (x.serve r q).2) x

/-- What requests one after the other were answered, and what each of them left behind. -/
def record (r : Runner) (x : Session) : List Request → List Served
  | [] => []
  | q :: rest =>
    let (reply, y) := x.serve r q
    ⟨q, reply, y.crew.history.drop x.crew.history.length⟩ :: record r y rest

/-- Of these the ones that are demands on a series. -/
def recordOf (r : Runner) (x : Session) (k : Nat) (requests : List Request) : List Served :=
  (x.record r requests).filter fun e => e.request.target? = some k

/-- The starts that were attempted for a series. -/
def attemptsOf (r : Runner) (x : Session) (k : Nat) (requests : List Request) : List Path :=
  (x.recordOf r k requests).flatMap fun e => attempts e.effects

/-- What was answered to the demands on a series. -/
def repliesOf (r : Runner) (x : Session) (k : Nat) (requests : List Request) : List Reply :=
  (x.recordOf r k requests).map Served.reply

end Session
end LintRun.Runner
