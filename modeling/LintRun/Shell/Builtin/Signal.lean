import LintRun.Shell.Builtin.Basic
import LintRun.Shell.Trap

/-!
# Shell — Built-in commands: signals and jobs

* `trap`: commands for signals.
* `kill`: sends a signal.
* `wait`: waits for commands in the background.
-/

namespace LintRun.Shell

/-- The rank of a trap in a list of them. -/
def trapRank (name : String) : Nat :=
  match name with
  | "EXIT" => 0
  | "DEBUG" => 65
  | "ERR" => 66
  | "RETURN" => 67
  | _ => (signalNames.lookup name).getD 68

/-- Shows the commands that are set up for signals. -/
def showTraps (names : Option (List String)) : Act Nat := do
  let s ← get
  let shown := (s.traps.filter fun (n, _) => names.all fun ns => ns.contains n).mergeSort
    fun a b => trapRank a.1 ≤ trapRank b.1
  shown.forM fun (name, action) =>
    let isSignal := ! ["EXIT", "DEBUG", "ERR", "RETURN"].contains name
    match s.dialect with
    | .bash => say 1 ("trap -- " ++ Escape.single action ++ " " ++ (if isSignal then "SIG" else "") ++ name)
    | .posix => say 1 ("trap -- " ++ Escape.plain action ++ " " ++ name)
  pure 0

/-- All signals with their numbers, five in a line. -/
def signalTable : List String :=
  let numbered (n : Nat) (name : String) : String :=
    let digits := toString n
    String.ofList (List.replicate (2 - digits.length) ' ') ++ digits ++ ") SIG" ++ name
  let realtime := (List.range 31).map fun i =>
    let n := 34 + i
    (if i = 0 then "RTMIN" else if i = 30 then "RTMAX" else if i ≤ 15 then "RTMIN+" ++ toString i
      else "RTMAX-" ++ toString (30 - i), n)
  let all := (signalNames ++ realtime).map fun (name, n) => numbered n name
  let rows := (List.range ((all.length + 4) / 5)).map fun i => (all.drop (5 * i)).take 5
  rows.map fun row => Text.joinWith "\t" row ++ if row.length = 5 then "" else "\t"

/-- Sets up a command for signals, or takes it back. -/
def trap (arguments : List String) : Act Nat := do
  withOptions "trap" (if (← get).isBash then "lp" else "") arguments fun flags words => do
    let s ← get
    let refuseName (name : String) : Act Nat := do
      match s.dialect with
      | .bash => refuse "trap" (name ++ ": invalid signal specification") 1
      | .posix => do
        say 2 ("trap: " ++ name ++ ": bad trap")
        pure 1
    let setAll (action : Option String) (names : List String) : Act Nat :=
      forEach names fun name => do
        match trapName? s.dialect name with
        | none => refuseName name
        | some key => do
          modify fun s =>
            let others := s.traps.filter fun (n, _) => n ≠ key
            { s with traps := match action with
              | some text => (key, text) :: others
              | none => others }
          pure 0
    if hasFlag flags 'l' then
      signalTable.forM (say 1)
      pure 0
    else if hasFlag flags 'p' then
      if words.isEmpty then showTraps none else showTraps (some (words.filterMap (trapName? s.dialect)))
    else match words with
      | [] => showTraps none
      | [a] =>
        match s.dialect, trapName? s.dialect a with
        | _, some _ => setAll none [a]
        | .bash, none =>
          usage "trap"
        | .posix, none => refuseName a
      | a :: names =>
        if a = "-" then setAll none names
        else if (Text.natural? a).isSome then setAll none (a :: names)
        else setAll (some a) names

/-- Ends a job, or does to it whatever a signal does. -/
def signalJob (n signal : Nat) : Act Bool := do
  let s ← get
  match s.jobs.find? fun j => j.number = n with
  | none => pure false
  | some j =>
    if s.elapsed < j.ends && !harmlessSignals.contains signal then
      set
        { s with
          jobs := s.jobs.map fun (k : Job) =>
            if k.number = n then { k with ends := s.elapsed, status := 128 + signal, signal := some signal } else k
          written := s.written.filter fun r => r.time ≤ s.elapsed || j.ends < r.time
          busy := if s.busy = j.ends then s.elapsed else s.busy }
      pure true
    else pure (s.elapsed < j.ends)

/-- A signal that the shell sends to itself, or one within it to the outermost one. -/
def signalSelf (n : Nat) : Act Nat := do
  let s ← get
  if 0 < s.subshells then set { s with sent := s.sent ++ [n] } else takeSignal n
  pure 0

/-- The job that a percent sign and a text name. -/
def jobOf? (s : State) (text : String) : Option Job :=
  match text with
  | "%%" | "%+" | "%" => s.jobs.head?
  | "%-" => s.jobs[1]?
  | _ => (Text.natural? (text.drop 1).toString).bind fun n => if n = 0 then none else s.jobs.reverse[n - 1]?

/-- Sends a signal to what one argument names. -/
def signalTarget (n : Nat) (target : String) : Act Nat := do
  let s ← get
  if target = toString ownNumber || target = "0" then signalSelf n
  else if target = toString (ownNumber + s.subshells) then
    if harmlessSignals.contains n then pure 0 else exit (128 + n)
  else if target.startsWith "%" then
    match jobOf? s target with
    | some j => do
      let _ ← signalJob j.number n
      pure 0
    | none =>
      match s.dialect with
      | .bash => refuse "kill" (target ++ ": no such job") 1
      | .posix => refuse "kill" ("No such job: " ++ target) 2
  else match Text.natural? target with
    | some m => do
      if ← signalJob m n then pure 0
      else match s.dialect with
        | .bash => refuse "kill" ("(" ++ target ++ ") - No such process") 1
        | .posix => refuse "kill" "No such process\n" 1
    | none =>
      match s.dialect with
      | .bash => refuse "kill" (target ++ ": arguments must be process or job IDs") 1
      | .posix => refuse "kill" ("Illegal number: " ++ target) 2

/-- The names of signals. -/
def listSignals (words : List String) : Act Nat := do
  match (← get).dialect, words with
  | .bash, [] => do
    signalTable.forM (say 1)
    pure 0
  | .posix, [] => do
    (("EXIT", 0) :: signalNames).forM fun (name, n) => if n = 0 then say 1 "0" else say 1 name
    pure 0
  | d, _ =>
    forEach (if d = .posix then words.take 1 else words) fun w =>
      let number := (Text.natural? w).map fun n => if 128 < n then n - 128 else n
      match number with
      | some 0 => do
        if d = .posix then return ← refuse "kill" ("invalid signal number or exit status: " ++ w) 2
        say 1 "EXIT"
        pure 0
      | some n =>
        match signalName? n with
        | some name => do
          say 1 name
          pure 0
        | none => fault "kill" (w ++ ": invalid signal specification") ("invalid signal number or exit status: " ++ w) 1
      | none =>
        match d, signal? w with
        | .bash, some n => do
          say 1 (toString n)
          pure 0
        | .bash, none => refuse "kill" (w ++ ": invalid signal specification") 1
        | .posix, _ =>
          refuse "kill" (if w.startsWith "-" then "Illegal option " ++ (w.take 2).toString else "Illegal number: " ++
            w) 2

def kill (arguments : List String) : Act Nat := do
  let s ← get
  let (signal, given, targets) := match arguments with
    | "-s" :: name :: rest => (signal? name, name, rest)
    | "-n" :: name :: rest => (signal? name, name, rest)
    | "--" :: rest => (some 15, "", rest)
    | a :: rest =>
      if isOption a then (signal? (a.drop 1).toString, (a.drop 1).toString, rest) else (some 15, "", a :: rest)
    | [] => (some 15, "", [])
  match arguments with
  | "-l" :: words | "-L" :: words => listSignals words
  | ["-s"] =>
    match s.dialect with
    | .bash => refuse "kill" "-s: option requires an argument" 1
    | .posix => refuse "kill" "No arg for -s option" 2
  | _ =>
    let targets := match targets with
      | "--" :: rest => rest
      | _ => targets
    match signal, targets with
    | none, _ =>
      match s.dialect with
      | .bash => refuse "kill" (given ++ ": invalid signal specification") 1
      | .posix =>
        if arguments.head? = some "-s" then refuse "kill" ("invalid signal number or name: " ++ given) 2
        else refuse "kill" ("Illegal option -" ++ (given.take 1).toString) 2
    | some _, [] =>
      match s.dialect with
      | .bash => usage "kill"
      | .posix =>
        refuse "kill" "Usage: kill [-s sigspec | -signum | -sigspec] [pid | job]... or\nkill -l [exitstatus]" 2
    | some n, _ => forEach targets (signalTarget n)

/-- Waits for commands in the background. -/
def wait (arguments : List String) : Act Nat := do
  withOptions "wait" (if (← get).isBash then "fnp:" else "") arguments fun flags words => do
    let s ← get
    let waitFor (j : Job) : Act Nat := do
      waitUntil j.ends
      if !s.isBash then (j.signal.bind signalText).forM (say 2)
      pure j.status
    if hasFlag flags 'n' then
      match s.jobs.mergeSort fun a b => a.ends ≤ b.ends with
      | [] => pure 127
      | j :: _ => do
        let status ← waitFor j
        modify fun s => { s with jobs := s.jobs.filter fun k => k.number ≠ j.number }
        pure status
    else match words with
      | [] => do
        waitUntil (s.jobs.foldl (fun t j => max t j.ends) s.elapsed)
        modify fun s => { s with jobs := [] }
        pure 0
      | _ =>
        words.foldlM (fun _ w => do
          if w.startsWith "%" then
            match jobOf? s w with
            | some j => waitFor j
            | none =>
              match s.dialect with
              | .bash => refuse "wait" (w ++ ": no such job") 127
              | .posix => refuse "wait" ("No such job: " ++ w) 2
          else match Text.natural? w with
            | some n =>
              match s.jobs.find? fun j => j.number = n with
              | some j => waitFor j
              | none =>
                match s.dialect with
                | .bash => refuse "wait" ("pid " ++ w ++ " is not a child of this shell") 127
                | .posix => pure 127
            | none =>
              match s.dialect with
              | .bash => refuse "wait" ("\x60" ++ w ++ "': not a pid or valid job spec") 1
              | .posix => refuse "wait" ("Illegal number: " ++ w) 2) 0

end LintRun.Shell
