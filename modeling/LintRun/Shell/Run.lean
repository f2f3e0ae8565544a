import LintRun.Shell.Reader.Script
import LintRun.Shell.Simple

/-!
# Shell — Running commands

What commands of all kinds do to the state of a shell.

* `runStages`: runs commands each of which takes in what the one before has written.
* `runCommand`: runs a command.
* `runText`: reads a text line by line, and runs each line before the next one is read.
-/

namespace LintRun.Shell

/-! ### Pipelines and the background -/

/-- How much a command may write before those that take it in have to be run. -/
def pipeRoom : Nat := 1048576

/-- A stage that nobody reads from any more ends with the status that tells it. -/
def asStage (act : Act Unit) : Act Unit := do
  match ← outcome act with
  | some (.killed 13) => setStatus 141
  | some flow => throw flow
  | none => pure ()

/-- Runs commands each of which takes in what the one before has written; the answer is how they have ended. -/
def runStages (e : Engine) : List Command → Act (List Nat)
  | [] => pure [0]
  | [c] => do
    let s ← get
    if s.isBash && s.has "lastpipe" then e.commands [c] else inSubshell e (e.commands [c])
    pure [(← get).status]
  | c :: rest => do
    let bytes ← collecting e (some pipeRoom) (asStage (e.commands [c]))
    let status := (← get).status
    let before := (← get).descriptors
    redirect 0 (← newSource bytes)
    let more ← runStages e rest
    modify fun s => { s with descriptors := before }
    pure (status :: more)

/-- Runs a pipeline. -/
def runPipeline (e : Engine) (negated : Bool) (stages : List Command) : Act Unit := do
  let run : Act Unit := do
    match stages with
    | [] => setStatus 0
    | [c] => e.commands [c]
    | _ =>
      let statuses ← runStages e stages
      let failed := (statuses.filter (· ≠ 0)).getLast?
      modify fun s =>
        { s with
          stages := statuses
          status := if s.has "pipefail" then failed.getD 0 else statuses.getLast?.getD 0 }
  if negated then
    whileTested run
    setStatus (if (← get).status = 0 then 1 else 0)
  else
    run
    checkFailure e

/-- Runs commands beside the shell, which goes on at once. -/
def runBackground (e : Engine) (body : Command) : Act Unit := do
  let before ← get
  set { before with held := before.elapsed }
  let flow ← outcome do
    inSubshell e do
      redirect 0 .nowhere
      e.commands [body]
  modify fun s =>
    let status := match flow with
      | some (.killed n) => 128 + n
      | _ => s.status
    let signal : Option Nat := match flow with
      | some (.killed n) => some n
      | _ => none
    let shown := if before.isBash then Layout.inline [body] else ""
    let number := before.lastJob.getD ownNumber + 1
    { s with
      elapsed := before.elapsed, held := before.held, busy := max s.busy s.held, lastJob := some number
      jobs := ⟨number, s.elapsed, status, signal, shown⟩ :: before.jobs, status := 0, stages := [0]
      descriptors := before.descriptors }

/-- A length of time in two forms. -/
def timeText (plain : Bool) (microseconds : Nat) : String :=
  let seconds := microseconds / 1000000
  if plain then toString seconds ++ "." ++ Report.padded 2 (microseconds / 10000 % 100)
  else
    toString (seconds / 60) ++ "m" ++ toString (seconds % 60) ++ "." ++
      Report.padded 3 (microseconds / 1000 % 1000) ++ "s"

/-- Runs a command and tells how long it took. -/
def runTimed (e : Engine) (plain : Bool) (body : Command) : Act Unit := do
  let start := (← get).elapsed
  e.commands [body]
  let line (label : String) (microseconds : Nat) : Act Unit :=
    say 2 (label ++ (if plain then " " else "\t") ++ timeText plain microseconds)
  if !plain then put 2 "\n"
  let now := (← get).elapsed
  line "real" (now - start)
  line "user" 0
  line "sys" 0

/-! ### Commands -/

/-- The head of a loop over words. -/
def loopHead (word name : String) (words : Option (List Word)) : String :=
  word ++ " " ++ name ++ " in" ++ match words with
    | some ws => String.join (ws.map fun w => " " ++ String.ofList w.source)
    | none => " \"$@\""

/-- The words that a loop goes through. -/
def loopValues (e : Engine) : Option (List Word) → Act (List String)
  | some ws => wordsFields e ws
  | none => do pure (← get).arguments

/-- A step on a line of its own in one dialect; the other one knows the lines of simple commands only. -/
def onLine (line : Nat) (act : Act Unit) : Act Unit := do if (← get).isBash then atLine line act else act

/-- A loop over words, whose variable needs a name that makes sense. -/
def runOver (e : Engine) (name : String) (words : Option (List Word)) (round : List String → Act Unit) : Act Unit := do
  if (← get).isBash && !isName name.toList then
    complain ("\x60" ++ name ++ "': not a valid identifier")
    setStatus 1
  else
    match ← loopValues e words with
    | [] => setStatus 0
    | values => inLoop (round values)

/-- Runs a command. -/
def runCommand (e : Engine) : Command → Act Unit
  | .simple line assignments words redirects => runSimple e line assignments words redirects
  | .redirected line body redirects => do
    if !(← get).isBash then modify fun s => { s with line }
    feeding e do
      withDescriptors redirects do
        if ← makeRedirects e redirects then e.commands [body] else checkFailure e
  | .group body => e.commands body
  | .subshell body => do
    modify fun s => { s with running := .command (.subshell body) }
    inSubshell e (e.commands body)
    noteStage
    answerSignals e
    checkFailure e
  | .branch clauses otherwise => runBranch e clauses otherwise
  | .loop onSuccess condition body => inLoop (runLoop e onSuccess condition body e.rounds 0)
  | .each line name words body =>
    onLine line (runOver e name words (runEach e name (loopHead "for" name words) body))
  | .menu line name words body =>
    onLine line do
      trace e (loopHead "select" name words)
      announce e (.head (loopHead "select" name words))
      runOver e name words fun values => runMenu e name values body e.rounds true
  | .count line start test step body =>
    onLine line do
      match ← countingValue e (shownExpression start) start with
      | none => setStatus 1
      | some _ => inLoop (runCount e test step body e.rounds 0)
  | .select line word clauses =>
    onLine line do
      let head := "case " ++ String.ofList word.source ++ " in"
      if (← get).isBash then
        trace e head
        announce e (.head (head ++ " "))
      let text ← wordText e word
      runClauses e text false false clauses
  | .calculate line expression => do
    onLine line do
      let source := String.ofList expression.source
      announce e (.head ("((" ++ source ++ "))"))
      trace e ("(( " ++ source ++ " ))")
      let value ← calculate? "((" (← expressionText e expression)
      setStatus (if value.any (· ≠ 0) then 0 else 1)
      noteStage
      checkFailure e
  | .judge line condition => do
    onLine line do
      announce e (.command (.judge line condition))
      setStatus (← judge e condition)
      noteStage
      checkFailure e
  | .define line name body => do
    modify fun s =>
      let source := if s.isBash && s.source = "" then "environment" else s.source
      { s with functions := (name, { body, source, line }) :: s.functions.filter fun (n, _) => n ≠ name }
    setStatus 0
  | .pipeline negated stages => runPipeline e negated stages
  | .timed plain body => runTimed e plain body
  | .both first second => do
    whileTested (e.commands [first])
    if (← get).status = 0 then e.commands [second]
  | .either first second => do
    whileTested (e.commands [first])
    if (← get).status ≠ 0 then e.commands [second]
  | .background body => runBackground e body

/-- Runs commands one after another. -/
def runCommands (e : Engine) : List Command → Act Unit
  | [] => pure ()
  | c :: rest => do
    if !(← get).has "noexec" then runCommand e c
    runCommands e rest

/-! ### Texts -/

/-- What a line of a text leads to. -/
inductive LineEnd
  /-- The text goes on at a place. -/
  | next (p : Place)
  | over

/-- Tells what is wrong with a text. -/
def reportFault (input : String) (start : Nat) (text : List Char) (f : SyntaxFault) : Act Unit := do
  (faultLines (← get) input start text f).forM (say 2)

/-- The place after the line that a fault stands on. -/
def afterFault (p : Place) (f : SyntaxFault) : Place :=
  let rec go : Nat → Place → Place
    | 0, p => p
    | fuel + 1, p =>
      let p := p.skip p.left
      if p.line < f.line then go fuel (p.skip 1) else p
  go p.rest.length p

/-- Reads one line and runs it. -/
def runLine (e : Engine) (input : String) (start : Nat) (text : List Char) (p : Place) : Act LineEnd := do
  let s ← get
  match readLine.run { p with manner := s.manner, cutOff := [] } with
  | .ok (commands, after) => do
    if s.isBash then after.cutOff.forM fun cut => say 2 (cutOffLine s input cut)
    if s.isBash then
      modify fun s => { s with line := after.line }
      if s.has "verbose" then put 2 (String.ofList ((p.rest.take (p.rest.length - after.rest.length)) ++ ['\n']))
    if (← get).has "noexec" then pure (.next after)
    else match ← outcome (runCommands e commands) with
      | none => pure (.next after)
      | some .spoiled => do
        let t ← get
        if 0 < t.subshells then throw .spoiled
        setStatus 1
        modify fun s => { s with stages := [1] }
        pure (.next { after with line := t.line })
      | some flow => throw flow
  | .error f => do
    if s.isBash then modify fun s => { s with line := f.line }
    reportFault input start text f
    match s.dialect, f.trouble with
    | .posix, _ => exit 2
    | .bash, .openListing => do
      setStatus 1
      pure .over
    | .bash, .listing _ => do
      setStatus 1
      pure (.next (afterFault p f))
    | .bash, _ => do
      setStatus (if f.nested then 127 else 2)
      if f.nested then throw .exited
      pure .over

/-- Reads lines from a place on, at most so many, and runs them. -/
def runLines (e : Engine) (input : String) (start : Nat) (text : List Char) : Nat → Place → Act Unit
  | 0, _ => pure ()
  | fuel + 1, p => do
    let p := p.lines
    if !p.rest.isEmpty then
      match ← runLine e input start text p with
      | .next after => runLines e input start text fuel after
      | .over => pure ()

/-- Reads a text line by line from a line on, and runs each line before the next one is read; messages about its form
say what it is. -/
def runText (e : Engine) (input : String) (start : Nat) (text : List Char) : Act Unit := do
  let p : Place := Place.lines { rest := text, line := start, manner := (← get).manner }
  if p.rest.isEmpty then setStatus 0 else runLines e input start text (text.length + 1) p

end LintRun.Shell
