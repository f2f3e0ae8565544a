import LintRun.Shell.Run
import LintRun.Shell.Tool.Catalog

/-!
# Shell — Launching programs

* `launch`: runs a program in a state of its own.
* `engine`: what runs commands, down to some depth.
-/

namespace LintRun.Shell

/-- Runs the text of a shell, with the commands after it that its end brings about. -/
def runScript (e : Engine) (input : String) (text : List Char) : Act Unit := do
  let flow ← outcome (finishing e (e.text input 1 text))
  feed e (← get).feeds.reverse
  if let some f := flow then throw f

/-- Reads the file that a variable names before anything else. -/
def readPreparations (e : Engine) : Act Unit := do
  let s ← get
  match s.isBash, value? s "BASH_ENV" with
  | true, some path =>
    if path ≠ "" then
      match ← readFile path with
      | .ok content => runFile e path (scriptText s.charset content) []
      | .error _ => pure ()
  | _, _ => pure ()

/-- What a shell says of a file that it cannot read as a script, and the status for it. -/
def unreadable (d : Dialect) (called path : String) (r : Refusal) : String × Nat :=
  match d with
  | .bash =>
    if r = .isDirectory then (path ++ ": " ++ path ++ ": " ++ r.text, 126)
    else (called ++ ": " ++ path ++ ": " ++ r.text, if r = .noEntry then 127 else 126)
  | .posix => (called ++ ": 0: cannot open " ++ path ++ ": " ++ if r = .noEntry then "No such file" else r.text, 2)

/-- Runs a shell as a program. -/
def runShell (e : Engine) (d : Dialect) (called : String) (arguments : List String) (environment : Environment) :
    Act Unit := do
  let s ← get
  let call := ShellCall.read d arguments
  let fresh (name given : String) (words : List String) : State :=
    let t := call.apply (shellState s d name words environment)
    { t with given := given.toList, lastArgument := (environment.get? "_").getD called }
  match call.unknown with
  | some text => do
    match d with
    | .bash =>
      if text.length = 1 then
        say 2 (called ++ ": -" ++ text ++ ": invalid option")
        say 2 ("Usage:\t" ++ called ++ " [GNU long option] [option] ...")
      else say 2 (called ++ ": line 0: " ++ called ++ ": " ++ text ++ ": invalid option name")
    | .posix => say 2 (called ++ ": 0: Illegal option -" ++ text)
    setStatus 2
  | none =>
    if call.version then
      say 1 versionLine
      setStatus 0
    else match call.source with
      | .argument text => do
        set (fresh (call.arguments.headD called) "c" (call.arguments.drop 1))
        readPreparations e
        runScript e "-c" (Encoding.recode (← get).charset text).toList
      | .input => do
        let bytes ← takeInput
        set { fresh called "s" call.arguments with sources := (← get).sources }
        readPreparations e
        runScript e "" (scriptText (← get).charset bytes)
      | .file path =>
        match ← readFile path with
        | .ok content =>
          if d = .bash && isBinary content then
            say 2 (path ++ ": " ++ path ++ ": cannot execute binary file")
            setStatus 126
          else
            let start := fresh path "" call.arguments
            let frames : List Frame := if d = Dialect.bash then [⟨"main", path, 0, .script⟩] else []
            set { start with frames }
            readPreparations e
            if d = Dialect.bash then modify fun s => { s with source := path }
            runScript e "" (scriptText (← get).charset content)
        | .error r => do
          let (text, status) := unreadable d called path r
          say 2 text
          setStatus status

/-- Runs a program in an environment; so many interpreters may stand between. -/
def launch (e : Engine) : Nat → Program → String → List String → Environment → Act Unit
  | 0, _, _, _, _ => setStatus 126
  | depth + 1, program, called, arguments, environment => do
    let s ← get
    match program with
    | .script path content =>
      match interpreter? content with
      | some (interpreter, own) =>
        match find s.tree interpreter with
        | .ok inner => launch e depth inner interpreter (own ++ path :: arguments) environment
        | .error _ => setStatus 126
      | none => do
        set (shellState s .posix path arguments environment)
        runScript e "" (scriptText (← get).charset content)
    | .system name =>
      match shellNames.lookup name with
      | some d => runShell e d called arguments environment
      | none => do
        set (toolState s called environment)
        let status ← match Tool.find? name with
          | some run => run e arguments
          | none => pure 0
        setStatus status
        match (← get).lost with
        | some text => do
          modify fun s => { s with lost := none }
          Tool.remark ("write error: " ++ text)
          setStatus 1
        | none => pure ()
where
  shellNames : List (String × Dialect) := System.shellNames

/-- What runs commands, down to some depth; below it a shell is out of memory. -/
def engine (rounds : Nat) : Nat → Engine
  | 0 =>
    { rounds
      commands := fun _ => throw (.killed 11)
      text := fun _ _ _ => throw (.killed 11)
      invoke := fun _ _ => throw (.killed 11)
      program := fun _ _ _ _ => throw (.killed 11) }
  | depth + 1 =>
    { rounds
      commands := fun cs => runCommands (engine rounds depth) cs
      text := fun input start text => runText (engine rounds depth) input start text
      invoke := fun functionsToo words => invoke (engine rounds depth) functionsToo (words.map Operand.text)
      program := fun p called arguments environment =>
        launch (engine rounds depth) 6 p called arguments environment }

end LintRun.Shell
