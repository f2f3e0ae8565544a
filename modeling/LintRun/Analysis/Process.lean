import LintRun.Failure.Problem
import LintRun.Toolchain.Environment

/-!
# Analysis — Processes

A process of the analyzer, as far as a run can see: whether it starts, what it prints, how it ends, and what is
done to it while it runs.

* `waitFault?`: whether a process can be waited for as long as it is given, and `Launcher`: what starting a command
  in an environment leads to.
* `Process.status`: the status a process ends with, which a kill decides unless it comes too late or the process
  survives it.
* `Process.isStopped`: whether a cancellation has killed a process.
-/

namespace LintRun.Analysis

/-- A moment at which somebody else cancels the run of a process. -/
inductive CancelPoint
  /-- The process is there, but nobody keeps track of it yet. -/
  | start
  /-- The process is running. -/
  | run
  /-- The process has ended, but its output has not been taken yet. -/
  | exit
  deriving DecidableEq, Repr

/-- How a process behaves once it is started. -/
structure Conduct where
  output : Option String := some ""
  code : Int := 0
  /-- The wait for the process is interrupted. -/
  interrupts : Bool := false
  /-- The wait that follows when its time is over is interrupted. -/
  interruptsLate : Bool := false
  /-- The process outlasts the time that it is given, if any. -/
  hangs : Bool := false
  /-- A kill does not change how the process ends. -/
  survives : Bool := false
  /-- Nobody can wait as long as the process is given. -/
  waitFault : Option WaitFault := none
  cancelled : Option CancelPoint := none
  deriving DecidableEq, Repr

/-- What a wait raises, the first one or the one after the time is over. The second one is given no time, and an
interruption comes first. -/
def Conduct.raises? (c : Conduct) (expired : Bool) : Option Fault :=
  match expired with
  | false => if c.interrupts then some .interrupted else c.waitFault.map .wait
  | true => if c.interruptsLate then some .interrupted else none

/-- The thousandths of a second in a second. -/
def thousand : Binary64 := ⟨0x408F400000000000⟩

/-- The longest wait that the system takes, in thousandths of a second. -/
def longestWait : Nat := 2147483647

/-- The longest wait whose billionths the clock can count, in thousandths of a second. -/
def longestCount : Nat := 9223372036854

/-- Why nobody can wait so many seconds, if nobody can. A time that is over is not waited for. -/
def waitFault? (limit : Binary64) : Option WaitFault :=
  let time := limit.mul thousand
  match time.view with
  | .nan => some .notNumber
  | .infinite negative => if negative then none else some .infinite
  | .finite _ _ _ =>
    let wait := (time.scaled.toNat + Nat.pow 2 1074 - 1) / Nat.pow 2 1074
    if longestCount < wait then some .beyondClock
    else if longestWait < wait then some .tooLong
    else none

/-- What an attempt to start a process leads to. -/
inductive Start
  | refused (f : SystemFault)
  | impossible (f : Fault)
  | process (c : Conduct)
  deriving DecidableEq, Repr

/-- Starts a command in an environment; the first argument is the time that the process is given, in seconds. -/
abbrev Launcher := Option Binary64 → List String → Environment → Start

/-- Every process that is started can be waited for unless the time that it is given forbids it. -/
def Launcher.IsTimely (l : Launcher) : Prop :=
  ∀ limit command environment c, l limit command environment = .process c → c.waitFault = limit.bind waitFault?

/-- Why a process is killed: its time is over, or its run is cancelled. -/
inductive KillReason
  | expiry
  | cancellation
  deriving DecidableEq, Repr

/-- A kill that a process received, alive or not. -/
structure Kill where
  reason : KillReason
  wasAlive : Bool
  deriving DecidableEq, Repr

/-- A process that was started. -/
structure Process where
  conduct : Conduct
  kills : List Kill := []
  exited : Bool := false
  deriving DecidableEq, Repr

namespace Process

/-- The status of a process that a kill has ended. -/
def killedStatus : Int := -9

/-- Whether somebody has killed the process, be it too late. -/
def isKilled (p : Process) : Bool := !p.kills.isEmpty

/-- Whether a kill has reached the process alive. -/
def isStruck (p : Process) : Bool := p.kills.any (·.wasAlive)

/-- Whether a cancellation has reached the process alive. -/
def isStopped (p : Process) : Bool := p.kills.any fun k => k.wasAlive && k.reason = .cancellation

def status (p : Process) : Int :=
  if p.isStruck && !p.conduct.survives then killedStatus else p.conduct.code

def kill (reason : KillReason) (p : Process) : Process := { p with kills := p.kills ++ [⟨reason, !p.exited⟩] }

def exit (p : Process) : Process := { p with exited := true }

end Process
end LintRun.Analysis
