import LintRun.Shell.Assign
import LintRun.Shell.Signal

/-!
# Shell — Traps

Commands that are set up for signals, failures and ends, and what a failure leads to.

* `runTrap`: runs the command that is set up for something.
* `answerSignals`: runs the commands of the signals that have come.
* `checkFailure`: what follows from the status of a command.
-/

namespace LintRun.Shell

/-- Whether a command for this is run in the middle of a script, so that its lines go on with those of the script. -/
def isInner (name : String) : Bool := name = "DEBUG" || name = "ERR" || name = "RETURN"

/-- Runs the command that is set up for something. The status stays what it was. -/
def runTrap (e : Engine) (name : String) : Act Unit := do
  let s ← get
  match s.traps.lookup name with
  | none => pure ()
  | some text =>
    if text ≠ "" && !s.answering.contains name then
      set { s with answering := name :: s.answering, earlier := s.status, tested := false, pending := [] }
      e.text (if isInner name then "" else "trap") (if s.isBash && isInner name then s.line else 1) text.toList
      modify fun t =>
        { t with
          answering := s.answering, earlier := s.earlier, tested := s.tested, status := s.status, line := s.line,
            running := s.running
          pending := s.pending ++ t.pending, stages := s.stages }

/-- Runs the commands of signals. -/
def answerAll (e : Engine) : List String → Act Unit
  | [] => pure ()
  | name :: rest => do
    runTrap e name
    answerAll e rest

/-- A signal that has come: a command may be set up for it, and else it may end the shell. -/
def takeSignal (n : Nat) : Act Unit := do
  let s ← get
  match (signalName? n).bind fun name => (s.traps.lookup name).map (name, ·) with
  | some (name, text) =>
    if n = 9 || n = 19 then throw (.killed n)
    else if text ≠ "" then set { s with pending := s.pending ++ [name] }
  | none => if !harmlessSignals.contains n then throw (.killed n)

/-- Runs the commands of the signals that have come. Those that shells within have sent are taken first. -/
def answerSignals (e : Engine) : Act Unit := do
  let s ← get
  if s.subshells = 0 && !s.sent.isEmpty then
    set { s with sent := [] }
    s.sent.forM takeSignal
  let s ← get
  if !s.pending.isEmpty then
    set { s with pending := [] }
    answerAll e s.pending

/-- What follows from a status that tells of a failure: the command for failures is run, and the shell may end. -/
def checkFailure (e : Engine) : Act Unit := do
  let s ← get
  if s.status ≠ 0 && !s.tested then
    runTrap e "ERR"
    let s ← get
    if s.has "errexit" && !s.sheltered then throw .exited

/-- Without the commands that a function or a file does not share with what calls it. -/
def withoutInnerTraps (isFunction : Bool) (act : Act Unit) : Act Unit := do
  let s ← get
  let own (name : String) : Bool :=
    (isFunction && name = "ERR" && !s.has "errtrace") || (name = "DEBUG" && !s.has "functrace") ||
      (isFunction && name = "RETURN" && !s.has "functrace")
  let kept := s.traps.filter fun (n, _) => own n
  set { s with traps := s.traps.filter fun (n, _) => !own n }
  thenAlways act
    (modify fun t => { t with traps := t.traps ++ kept.filter fun (n, _) => (t.traps.lookup n).isNone })

/-- A step in a surrounding that looks at its status: it is not ended by failures, as in one dialect only its
innermost commands would know. -/
def shelteredIfTested (act : Act Unit) : Act Unit := do
  let s ← get
  match s.dialect with
  | .bash =>
    if s.tested then
      let kept := s.traps.filter fun (n, _) => n = "ERR"
      set { s with tested := false, sheltered := true, traps := s.traps.filter fun (n, _) => n ≠ "ERR" }
      thenAlways act
        (modify fun t =>
          { t with
            tested := true, sheltered := s.sheltered
            traps := t.traps ++ if (t.traps.lookup "ERR").isNone then kept else [] })
    else act
  | .posix => act

end LintRun.Shell
