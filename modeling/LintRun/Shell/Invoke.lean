import LintRun.Shell.Builtin.Directory
import LintRun.Shell.Builtin.Input
import LintRun.Shell.Builtin.Leave
import LintRun.Shell.Builtin.Name
import LintRun.Shell.Builtin.Options
import LintRun.Shell.Builtin.Output
import LintRun.Shell.Builtin.Signal
import LintRun.Shell.Compound
import LintRun.Shell.Program

/-!
# Shell — Invocation

What the name of a command leads to: a function, a command of the shell itself, or a program.

* `callFunction`: runs a function with arguments.
* `readIn`: reads a file as if its text stood here.
* `start`: starts a program beside the shell, `replace` in its place.
* `invoke`: runs what the name at the front of some operands stands for.
-/

namespace LintRun.Shell

/-! ### Functions and texts -/

/-- Runs a function with arguments. -/
def callFunction (e : Engine) (name : String) (f : Function) (arguments : List String) : Act Unit := do
  let before ← get
  set
    { before with
      arguments, loops := 0, hidden := [] :: before.hidden
      frames := ⟨name, f.source, before.line, .function⟩ :: before.frames
      source := if before.isBash then f.source else before.source
      line := if before.isBash then f.line else before.line }
  thenAlways
    (withoutInnerTraps true do
      match ← outcome (e.commands [f.body]) with
      | none | some .returned => do
        modify fun s => { s with line := before.line }
        runTrap e "RETURN"
      | some flow => throw flow)
    (modify fun s =>
      { s with
        arguments := before.arguments, loops := before.loops, frames := before.frames, source := before.source
        line := before.line, hidden := before.hidden
        bindings := (s.hidden.headD []).foldl restoreVariable s.bindings })

/-- A step one level deeper, as traces show it. -/
def deeper (act : Act Unit) : Act Unit := do
  modify fun s => { s with nesting := s.nesting + 1 }
  thenAlways act (modify fun s => { s with nesting := s.nesting - 1 })

/-- Runs the text of a command. -/
def evaluate (e : Engine) (words : List String) : Act Unit := do
  let s ← get
  let text := Text.joinWith " " words
  if text = "" then setStatus 0
  else
    if !s.isBash then set { s with source := "eval" }
    thenAlways (shelteredIfTested (deeper (e.text "eval" (if s.isBash then s.line else 1) text.toList)))
      (modify fun t => { t with source := s.source, line := s.line, running := s.running })

/-- The path of a file that is to be read in: one without a slash is searched for. -/
def filePath? (s : State) (file : String) : Option String :=
  let isFile (path : String) : Bool :=
    match fileKind? s.tree path with
    | some .folder | none => false
    | some _ => true
  if file.toList.contains '/' then if (fileKind? s.tree file).isSome then some file else none
  else
    ((searchDirectories (searchPath s)).map (inDirectory · file)).find? isFile |>.orElse fun _ =>
      if s.isBash && (fileKind? s.tree file).isSome then some file else none

/-- Runs the text of a file here; arguments of its own take the place of those of the script. -/
def runFile (e : Engine) (path : String) (text : List Char) (own : List String) : Act Unit := do
  let before ← get
  set
    { before with
      source := path, status := 0, loops := if before.isBash then before.loops else 0
      arguments := if own.isEmpty then before.arguments else own
      frames := ⟨"source", path, before.line, .file⟩ :: before.frames }
  let returnable (act : Act Unit) : Act Unit := do
    match ← outcome act with
    | none | some .returned => do
      modify fun s => { s with line := before.line, running := before.running }
      runTrap e "RETURN"
    | some flow => throw flow
  thenAlways (shelteredIfTested (withoutInnerTraps false (returnable (deeper (e.text "" 1 text)))))
    (modify fun s =>
      { s with
        source := before.source, frames := before.frames, line := before.line, running := before.running
        loops := before.loops
        arguments := if own.isEmpty then s.arguments else before.arguments })

/-- What a plain shell says of a file to read in that is not there; the answer is the status. -/
def refuseFile (file : String) : Act Nat := do
  complain (".: " ++ if file.toList.contains '/' then "cannot open " ++ file ++ ": No such file" else file ++
    ": not found")
  pure 2

/-- Reads a file as if its text stood here. -/
def readIn (e : Engine) (command : String) (arguments : List String) : Act Nat := do
  let s ← get
  let reading (words : List String) : Act Nat := do
    match words with
    | [] =>
      match s.dialect with
      | .bash => do
        complain (command ++ ": filename argument required")
        usage command
      | .posix => pure 0
    | file :: own =>
      match filePath? s file with
      | none =>
        match s.dialect with
        | .bash => do
          complain (file ++ ": No such file or directory")
          pure 1
        | .posix =>
          let status ← refuseFile file
          exit status
      | some path =>
        match ← readFile path with
        | .error .isDirectory =>
          match s.dialect with
          | .bash => refuse command (path ++ ": is a directory") 1
          | .posix => pure 0
        | .error r => do
          complain (path ++ ": " ++ r.text)
          pure 1
        | .ok content => do
          if s.isBash && isBinary content then refuse command (path ++ ": cannot execute binary file") 126
          else
            runFile e path (scriptText s.charset content) (if s.isBash then own else [])
            pure (← get).status
  match s.dialect with
  | .bash => withOptions command "" arguments fun _ words => reading words
  | .posix => reading (if arguments.head? = some "--" then arguments.drop 1 else arguments)

/-! ### Programs -/

/-- What a shell says when the system does not start a program that is there, and the status for it. -/
def unstartable (s : State) (path : String) (content : List UInt8) (r : Refusal) : String × Nat :=
  match s.dialect, r with
  | .posix, .noEntry => (messageHead s ++ path ++ ": not found", 127)
  | .posix, r => (messageHead s ++ path ++ ": " ++ r.text, 126)
  | .bash, .noEntry => (messageHead s ++ path ++ ": cannot execute: required file not found", 127)
  | .bash, .execFormat => (messageHead s ++ path ++ ": cannot execute binary file: " ++ r.text, 126)
  | .bash, r =>
    match interpreter? content with
    | some (interpreter, _) => (speaker s ++ ": " ++ path ++ ": " ++ interpreter ++ ": bad interpreter: " ++ r.text,
        126)
    | none => (messageHead s ++ path ++ ": " ++ r.text, 126)

/-- Runs a program that was found; a text that asks for no interpreter is read by a shell of this kind. -/
def runProgram (e : Engine) (program : Program) (called : String) (arguments : List String)
    (environment : Environment) : Act Unit := do
  let s ← get
  match program, refusal? s.tree 5 program with
  | .script path content, some .execFormat =>
    if isBinary content then
      let (text, status) := unstartable s path content .execFormat
      say 2 text
      setStatus status
    else
      set (shellState s s.dialect path arguments environment)
      finishing e (e.text "" 1 (scriptText (← get).charset content))
  | .script path content, some r => do
    let (text, status) := unstartable s path content r
    say 2 text
    setStatus status
  | _, _ => e.program program called arguments environment

/-- The path that a program is known by. -/
def Program.path (s : State) (name : String) : Program → String
  | .script path _ => path
  | .system _ => ((programPaths s name).head?).getD name

/-- Starts the program of a name beside the shell. -/
def start (e : Engine) (name : String) (arguments : List String) : Act Unit := do
  let s ← get
  match search s.tree (some (searchPath s)) name with
  | .ok program =>
    asProgram (runProgram e program name arguments (programEnvironment s (program.path s name)))
  | .error r =>
    match s.isBash, s.functions.lookup "command_not_found_handle" with
    | true, some f =>
      if name.toList.contains '/' then refused s r
      else inSubshell e (callFunction e "command_not_found_handle" f (name :: arguments))
    | _, _ => refused s r
where
  refused (s : State) (r : Refusal) : Act Unit := do
    let (text, status) := unstarted s name r
    complain text
    setStatus status

/-- The environment of a program that takes the place of the shell. -/
def replacingEnvironment (s : State) (path : String) : Environment :=
  let all := programEnvironment s path
  match s.isBash && s.subshells = 0, (all.get? "SHLVL").bind Text.natural? with
  | true, some (n + 1) => all.set "SHLVL" (toString n)
  | _, _ => all

/-- Starts a program in the place of the shell, which ends. -/
def replace (e : Engine) (arguments : List String) : Act Nat := do
  let s ← get
  let go (flags : List Flag) (words : List String) : Act Nat := do
    match words with
    | [] => pure 0
    | name :: own =>
      match search s.tree (some (searchPath s)) name with
      | .error r => do
        let isPath := name.toList.contains '/'
        let full := if isPath then shownPath s name else name
        match s.dialect with
        | .posix => do
          let (text, status) := unstarted s name r
          abortWith ("exec: " ++ text) status
        | .bash =>
          if isPath then
            let isFolder := fileKind? s.tree name = some .folder
            let reason := if isFolder then Refusal.isDirectory.text else r.text
            complain (full ++ ": " ++ reason)
            if r ≠ .noEntry && r ≠ .notDirectory then complain ("exec: " ++ full ++ ": cannot execute: " ++ reason)
            leaveWith (if r = .noEntry then 127 else 126)
          else if fileKind? s.tree name = some .folder then do
            complain ("exec: " ++ name ++ ": cannot execute: " ++ Refusal.isDirectory.text)
            leaveWith 126
          else do
            complain ("exec: " ++ name ++ ": not found")
            leaveWith 127
      | .ok program => do
        let program := match program with
          | .script path content => .script (if s.isBash && name.toList.contains '/' then shownPath s path
              else path) content
          | p => p
        let environment := if hasFlag flags 'c' then [] else replacingEnvironment s (program.path s name)
        let called := (if hasFlag flags 'l' then "-" else "") ++ (flagValue? flags 'a').getD name
        isolated (runProgram e program called own environment)
        modify fun s => { s with traps := [] }
        throw .exited
  match s.dialect with
  | .bash => withOptions "exec" "cla:" arguments go
  | .posix => go [] arguments
where
  /-- A path from the root, without the marks of the working directory. -/
  shownPath (s : State) (path : String) : String :=
    "/" ++ Text.joinWith "/" ((absolutePath s.tree (pathOf path)).parts.filter (· ≠ "."))
  leaveWith (status : Nat) : Act Nat := do
    if (← get).has "execfail" then pure status else exit status
  abortWith (text : String) (status : Nat) : Act Nat := do
    complain text
    exit status

/-! ### Commands of the shell itself -/

/-- Commands that run other commands. -/
def runLeading (e : Engine) (name : String) (arguments : List String) : Option (Act Unit) :=
  match name with
  | "eval" => some do
    match (← get).dialect with
    | .bash =>
      match ← options "eval" "" arguments with
      | some (_, words) => evaluate e words
      | none => setStatus 2
    | .posix => evaluate e arguments
  | "command" => some do
    match ← options "command" "pvV" arguments with
    | none => setStatus 2
    | some (flags, words) =>
      if hasFlag flags 'v' || hasFlag flags 'V' then setStatus (← describeCommands (hasFlag flags 'V') words)
      else if words.isEmpty then setStatus 0
      else if hasFlag flags 'p' then
        withVariables ["PATH"] do
          let path := { Variable.ofText usualPath with exported := true }
          modify fun s => { s with bindings := putVariable "PATH" path s.bindings }
          e.invoke false words
      else match (← get).isBash, words with
        | false, "." :: file :: _ =>
          if (filePath? (← get) file).isNone then setStatus (← refuseFile file)
          else e.invoke false words
        | _, _ => e.invoke false words
  | "builtin" => some do
    match ← options "builtin" "" arguments with
    | none => setStatus 2
    | some (_, []) => setStatus 0
    | some (_, inner :: rest) =>
      if isBuiltin (← get) inner then e.invoke false (inner :: rest)
      else setStatus (← refuse "builtin" (inner ++ ": not a shell builtin") 1)
  | _ => none

/-- Commands whose arguments may be lists of values. -/
def runDeclaring (name : String) (operands : List Operand) : Option (Act Nat) :=
  match name with
  | "declare" | "typeset" => some (declare name operands)
  | "local" => some (localNames operands)
  | "export" => some (exportNames operands)
  | "readonly" => some (readonly operands)
  | _ => none

/-- What `ulimit` shows of a limit. -/
def limits (arguments : List String) : Act Nat := do
  let words := arguments.filter fun a => !a.startsWith "-"
  match words with
  | w :: _ =>
    if (Text.natural? w).isSome || ["unlimited", "hard", "soft"].contains w then pure 0
    else match (← get).dialect with
      | .bash => refuse "ulimit" (w ++ ": invalid number") 1
      | .posix => refuse "ulimit" "bad number" 2
  | [] => do
    say 1 (match arguments with
      | "-n" :: _ => "1024"
      | "-c" :: _ => "0"
      | _ => "unlimited")
    pure 0

/-- How a job stands that is over. -/
def Job.ending (j : Job) : String :=
  match j.signal.bind signalText with
  | some text => text
  | none => if j.status = 0 then "Done" else "Done(" ++ toString j.status ++ ")"

/-- The line about a job, with its place among all of them. The newest one has a mark of its own, as has the one before
it. -/
def jobLine (s : State) (withNumber : Bool) (count place : Nat) (j : Job) : String :=
  let mark := if place = count then "+" else if place + 1 = count then "-" else " "
  let filled (width : Nat) (text : String) : String :=
    text ++ String.ofList (List.replicate (width - text.length) ' ')
  let isRunning := s.elapsed < j.ends
  let head := "[" ++ toString place ++ "]"
  match s.dialect with
  | .bash => head ++ mark ++ (if withNumber then " " ++ toString j.number ++ " " else "  ") ++
      filled 24 "Running" ++ j.shown ++ " &"
  | .posix =>
    let own := head ++ " " ++ mark ++ " " ++ if withNumber then toString j.number ++ " " else ""
    filled 33 (own ++ if isRunning then "Running" else j.ending)

/-- Tells which jobs are running. A plain shell tells of those that are over once, and begins with the newest one. -/
def showJobs (arguments : List String) : Act Nat := do
  withOptions "jobs" (if (← get).isBash then "lnprs" else "lp") arguments fun flags words => do
    let s ← get
    let all := s.jobs.reverse.zipIdx 1
    let line (j : Job) (place : Nat) : Act Unit :=
      say 1 (if hasFlag flags 'p' then toString j.number else jobLine s (hasFlag flags 'l') all.length place j)
    if words.isEmpty then
      let shown := if s.isBash then all.filter fun (j, _) => s.elapsed < j.ends else all.reverse
      shown.forM fun (j, place) => line j place
      if !s.isBash then modify fun s => { s with jobs := s.jobs.filter fun j => s.elapsed < j.ends }
      pure 0
    else forEach words fun w => do
      match jobOf? s w with
      | some j => do
        line j ((all.lookup j).getD 1)
        pure 0
      | none =>
        match s.dialect with
        | .bash => refuse "jobs" (w ++ ": no such job") 1
        | .posix => refuse "jobs" ("No such job: " ++ w) 2

/-- A command of the shell itself, with texts as arguments. -/
def runPlain (e : Engine) (name : String) (arguments : List String) : Act Nat := do
  match name with
  | "." | "source" => readIn e name arguments
  | "exec" => replace e arguments
  | ":" | "true" => pure 0
  | "false" => pure 1
  | "echo" => echo arguments
  | "printf" => printf arguments
  | "pwd" => workingDirectory arguments
  | "cd" | "chdir" => changeDirectory arguments
  | "pushd" => pushDirectory arguments
  | "popd" => popDirectory arguments
  | "dirs" => showDirectories arguments
  | "read" => read arguments
  | "mapfile" | "readarray" => mapfile e name arguments
  | "getopts" => getopts arguments
  | "set" => setOptions arguments
  | "shopt" => shopt arguments
  | "unset" => unset arguments
  | "shift" => shift arguments
  | "exit" | "logout" => leave name .exited arguments
  | "return" => returnWith arguments
  | "break" => leaveLoop name .broken arguments
  | "continue" => leaveLoop name .continued arguments
  | "let" => calculateAll arguments
  | "test" | "[" => testCommand name arguments
  | "type" => describe arguments
  | "alias" => setAliases arguments
  | "unalias" => unalias arguments
  | "hash" => hash arguments
  | "enable" => enable arguments
  | "caller" => caller arguments
  | "umask" => umask arguments
  | "trap" => trap arguments
  | "kill" => kill arguments
  | "wait" => wait arguments
  | "ulimit" => limits arguments
  | "jobs" => showJobs arguments
  | "times" => do
    say 1 "0m0.000s 0m0.000s"
    say 1 "0m0.000s 0m0.000s"
    pure 0
  | "bg" | "fg" =>
    match (← get).dialect with
    | .bash => refuse name "no job control" 1
    | .posix => fault name "" "No current job" 2
  | "suspend" => refuse name "cannot suspend: no job control" 1
  | _ => pure 0
where
  /-- The condition that arguments make up. -/
  testCommand (name : String) (arguments : List String) : Act Nat := do
    let s ← get
    if name = "[" && arguments.getLast? ≠ some "]" then
      refuse "[" (Condition.Trouble.unclosed.message s.dialect) 2
    else
      match Condition.holds s (if name = "[" then arguments.dropLast else arguments) with
      | .ok true => pure 0
      | .ok false => pure 1
      | .error t => refuse name (t.message s.dialect) 2

/-- Runs a command of the shell itself. -/
def runBuiltin (e : Engine) (name : String) (operands : List Operand) : Act Unit := do
  match runLeading e name (operands.map Operand.plain) with
  | some act => act
  | none => do
    let before := (← get).source
    if !(← get).isBash then modify fun s => { s with source := "" }
    let act : Act Unit := do
      let status ← match runDeclaring name operands with
        | some act => act
        | none => runPlain e name (operands.map Operand.plain)
      setStatus status
      setStatus (← reportLost name status)
    thenAlways act (if !(← get).isBash then modify fun s => { s with source := before } else pure ())

/-! ### Names -/

/-- Runs what the name at the front of some operands stands for; functions may be passed over. -/
def invoke (e : Engine) (functionsToo : Bool) : List Operand → Act Unit
  | [] => pure ()
  | first :: operands => do
    let name := first.plain
    let s ← get
    let function? :=
      if functionsToo && (s.isBash || !specialNames.contains name) then s.functions.lookup name else none
    match function? with
    | some f => callFunction e name f (operands.map Operand.plain)
    | none =>
      if isBuiltin s name then runBuiltin e name operands
      else start e name (operands.map Operand.plain)

end LintRun.Shell
