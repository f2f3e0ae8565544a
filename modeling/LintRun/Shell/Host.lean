import LintRun.Analysis.Process
import LintRun.Shell.Launch
import LintRun.Toolchain.Resolver

/-!
# Shell — The host

A system with a file tree on which scripts and analyzers run.

* `Host.shell`: runs the scripts of a resolver; its two outputs are kept apart.
* `Host.launcher`: starts the analyzer of a runner; its two outputs are one.
-/

namespace LintRun

/-- A system, as far as programs see it. -/
structure Host where
  tree : FileTree

namespace Host
open Shell Analysis

/-- A bound on the depth of commands within commands, which a shell could not go below either. -/
def depthLimit : Nat := 20000

/-- A bound on the rounds of a loop. -/
def roundLimit : Nat := 1000000

/-- How long it takes to start a program, in microseconds. -/
def startTime : Nat := 1000

/-- What a program leaves behind. -/
structure Trace where
  status : Int
  written : List Record
  stalled : Bool

/-- The trace of a program that is started by somebody who waits for it so many microseconds, and for all who may
still write to its outputs. -/
def trace (h : Host) (limit : Option Nat) (program : Program) (called : String) (arguments : List String)
    (environment : Environment) : Trace :=
  let start : State := { dialect := .posix, name := called, tree := h.tree, limit }
  let e := engine roundLimit depthLimit
  let act : Act Unit := do
    spend startTime
    e.program program called arguments environment
  let waiting : Act Unit := do waitUntil (← get).busy
  let (flow, s) := (outcome (isolated act)).run.run start
  let (late, s) := (outcome waiting).run.run s
  let status : Int := match flow with
    | .ok (some (.killed n)) => -(n : Int)
    | _ => s.status
  let isStalled (r : Except Flow (Option Flow)) : Bool := match r with
    | .ok (some .stalled) => true
    | _ => false
  { status, written := s.written, stalled := isStalled flow || isStalled late }

/-- Bytes as text with plain line ends. -/
def textOf (bytes : List UInt8) : String := String.ofList (Text.normalizeNewlines (Utf8.decodeLossy bytes))

/-- Why a command cannot even be handed over: a name of a variable holds an equals sign, or some text a NUL. -/
def fault? (command : List String) (environment : Environment) : Option Fault :=
  let holds (c : Char) (s : String) : Bool := s.toList.contains c
  if environment.any fun (n, _) => holds '=' n then some .variableName
  else if command.any (holds '\x00') || environment.any fun (n, v) => holds '\x00' n || holds '\x00' v then
    some .embeddedNul
  else none

/-- The program of a name that can be started in an environment. -/
def program (h : Host) (environment : Environment) (name : String) : Except SystemFault Program :=
  match search h.tree (environment.get? "PATH") name with
  | .error r => .error (r.on name)
  | .ok p =>
    match refusal? h.tree 5 p with
    | some r => .error (r.on name)
    | none => .ok p

/-- The name of the shell that runs scripts. -/
def shellName : String := "bash"

/-- Runs a script in an environment. -/
def shell (h : Host) : Shell := fun _ script environment =>
  let arguments := ["--noprofile", "--norc", "-c", script]
  match fault? arguments environment with
  | some f => .error (.impossible f)
  | none =>
    match h.program environment shellName with
    | .error f => .error (.refused f)
    | .ok p =>
      let t := h.trace none p shellName arguments environment
      .ok
        { status := t.status
          output := textOf (collected (· = .output) t.written)
          errors := some (textOf (collected (· = .errors) t.written)) }

/-- Starts a command in an environment. How long a process can be waited for follows from the time it is given. -/
def launcher (h : Host) : Launcher := fun limit command environment =>
  match command with
  | [] => .refused (Refusal.noEntry.on "")
  | name :: arguments =>
    match fault? command environment with
    | some f => .impossible f
    | none =>
      match h.program environment name with
      | .error f => .refused f
      | .ok p =>
        let t := h.trace (limit.bind Binary64.millionths?) p name arguments environment
        .process
          { output := some (textOf (collected (fun _ => true) t.written))
            code := t.status
            hangs := t.stalled
            waitFault := limit.bind waitFault? }

end Host
end LintRun
