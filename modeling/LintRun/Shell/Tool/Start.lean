import LintRun.Shell.Clock
import LintRun.Shell.Program
import LintRun.Shell.Tool.Plain

/-!
# Shell — Programs of the system that start others

* `run`: starts a program and takes over its status.
* `env`, `timeout`, `nice`, `nohup`, `arguments`: programs that start others.
-/

namespace LintRun.Shell
namespace Tool

/-- What a program does that may start others. -/
abbrev Starting := Engine → Plain

/-- Starts a program in an environment, or tells why it cannot be started. A file that asks for no interpreter is
read by a shell. -/
def run (e : Engine) (environment : Environment) (path : Option String) (name : String) (arguments : List String) :
    Act (Except Refusal Nat) := do
  let s ← get
  match search s.tree path name with
  | .error r => pure (.error r)
  | .ok program =>
    match refusal? s.tree 5 program with
    | some r =>
      if r = .execFormat then start program else pure (.error r)
    | none => start program
where
  start (program : Program) : Act (Except Refusal Nat) := do
    asProgram (e.program program name arguments environment)
    pure (.ok (← get).status)

/-- Starts a program, or says why it cannot be started. -/
def runOr (e : Engine) (environment : Environment) (path : Option String) (label : String) (words : List String) :
    Act Nat := do
  match words with
  | [] => pure 0
  | name :: arguments =>
    match ← run e environment path name arguments with
    | .ok status => pure status
    | .error r => do
      let s ← get
      remark (label ++ quotedFor s name ++ ": " ++ r.text)
      pure (if r = .noEntry then 127 else 126)

/-- Has a shell run a command; the answer is its status. -/
def runCommandText (e : Engine) (command : String) : Act Nat := do
  asProgram (e.program (.system "sh") "sh" ["-c", command] (surroundings (← get))) false
  pure (← get).status

/-- What a command writes that a shell runs. -/
def outputOf (e : Engine) (command : String) : Act (List UInt8) :=
  collecting e none do let _ ← runCommandText e command

/-- The words of a text in one argument. -/
def splitWords : Nat → List Char → List (List Char)
  | 0, _ => []
  | fuel + 1, cs =>
    let cs := cs.dropWhile Text.isPlainBlank
    let rec word : List Char → List Char × List Char
      | [] => ([], [])
      | '\'' :: rest =>
        let inner := rest.takeWhile (· ≠ '\'')
        let (more, rest) := word (rest.drop (inner.length + 1))
        (inner ++ more, rest)
      | '"' :: rest =>
        let inner := rest.takeWhile (· ≠ '"')
        let (more, rest) := word (rest.drop (inner.length + 1))
        (inner ++ more, rest)
      | '\\' :: c :: rest =>
        let (more, rest) := word rest
        (c :: more, rest)
      | c :: rest =>
        if Text.isPlainBlank c then ([], c :: rest)
        else
          let (more, rest) := word rest
          (c :: more, rest)
    termination_by cs => cs.length
    decreasing_by all_goals (simp_wf; try omega)
    if cs.isEmpty then []
    else
      let (w, rest) := word cs
      w :: splitWords fuel rest

/-! ### Environments -/

/-- The arguments with the words of a text that is to be split. -/
def withSplitWords : Nat → List String → List String
  | 0, words => words
  | _ + 1, [] => []
  | fuel + 1, a :: rest =>
    let split (text : String) (rest : List String) : List String :=
      withSplitWords fuel ((splitWords (text.length + 1) text.toList).map String.ofList ++ rest)
    if a = "-S" || a = "--split-string" || a = "-vS" || a = "-iS" then
      let own := if a = "-iS" then ["-i"] else []
      match rest with
      | text :: rest => own ++ split text rest
      | [] => [a]
    else if a.startsWith "-S" then split (a.drop 2).toString rest
    else if a.startsWith "--split-string=" then split (a.drop 15).toString rest
    else if a = "-u" || a = "-C" then a :: rest.take 1 ++ withSplitWords fuel (rest.drop 1)
    else if a.startsWith "-" && a ≠ "--" then a :: withSplitWords fuel rest
    else a :: rest

/-- Prints the environment, or starts a program in a changed one. -/
def env : Starting := fun e arguments => do
  let known := ["i/ignore-environment", "0/null", "u/unset=", "C/chdir=", "v/debug"]
  let arguments := withSplitWords (arguments.length + 8) arguments
  withChoices known (fun chosen words => do
    let s ← get
    let cleared := has chosen "i" || words.head? = some "-"
    let words := if words.head? = some "-" then words.drop 1 else words
    let start := if cleared then [] else surroundings s
    let start := chosen.foldl (fun v c => if c.key = "u" then Environment.unset v c.value else v) start
    let isAssignment (w : String) : Bool := w.toList.contains '='
    let environment := (words.takeWhile isAssignment).foldl (fun v w =>
      match Text.cutAt? '=' w.toList with
      | some (n, t) => Environment.set v (String.ofList n) (String.ofList t)
      | none => v) start
    match words.dropWhile isAssignment with
    | [] => do
      printAll chosen (environment.map fun (n, v) => n ++ "=" ++ v)
      pure 0
    | command =>
      if has chosen "0" then misuse "cannot specify --null (-0) with command" 125
      else
        if has chosen "v" then
          say 2 ("executing: " ++ command.headD "")
          command.zipIdx.forM fun (w, i) => say 2 ("   arg[" ++ toString i ++ "]= " ++ quotedFor s w)
        match value? chosen "C" with
        | some directory =>
          match s.tree.node? (pathOf directory) with
          | .ok (.directory _) => do
            let home := s.tree.home
            let moved := (absolutePath s.tree (pathOf directory)).parts
            modify fun s => { s with tree := { s.tree with home := moved } }
            let status ← runOr e environment (environment.get? "PATH") "" command
            modify fun s => { s with tree := { s.tree with home } }
            pure status
          | .ok _ => fail ("cannot change directory to " ++ quotedFor s directory ++ ": Not a directory") 125
          | .error r => fail ("cannot change directory to " ++ quotedFor s directory ++ ": " ++ r.text) 125
        | none => runOr e environment (environment.get? "PATH") "" command) 125 false arguments

/-! ### Limits -/

/-- Starts a program that may run for some time only. -/
def timeout : Starting := fun e =>
  withChoices ["s/signal=", "k/kill-after=", "/preserve-status", "/foreground", "v/verbose"] (fun chosen words => do
    let s ← get
    match words with
    | [] | [_] => misuse "missing operand" 125
    | time :: command =>
      match duration? time with
      | none => misuse ("invalid time interval " ++ quotedFor s time) 125
      | some 0 => runOr e (surroundings s) ((surroundings s).get? "PATH") "failed to run command " command
      | some length => do
        let deadline := s.elapsed + length
        set { s with limit := some (match s.limit with
          | some l => min l deadline
          | none => deadline) }
        let path := (surroundings s).get? "PATH"
        let mine := s.limit.all fun l => decide (deadline < l)
        match ← outcome (do setStatus (← runOr e (surroundings s) path "failed to run command " command)) with
        | some .stalled =>
          if mine then do
            modify fun t =>
              { t with
                limit := s.limit, elapsed := deadline, busy := s.busy
                written := t.written.filter fun r => r.time ≤ deadline }
            let killed := ["9", "KILL", "SIGKILL"].contains ((value? chosen "s").getD "")
            -- the signal goes to all that `timeout` runs, and to itself
            if killed then throw (.killed 9)
            pure (if has chosen "preserve-status" then 143 else 124)
          else throw .stalled
        | some flow => throw flow
        | none => do
          modify fun t => { t with limit := s.limit }
          pure (← get).status) 125 false

/-- Starts a program in another way that nobody can tell. -/
def starts (known : List String) (idle : Option String) : Starting := fun e =>
  withChoices known (fun _ words => do
    let s ← get
    match words, idle with
    | [], some text => do
      say 1 text
      pure 0
    | [], none => misuse "missing operand" 125
    | _, _ => runOr e (surroundings s) ((surroundings s).get? "PATH") "" words) 125 false

/-! ### Arguments from the input -/

/-- How the input is cut into arguments. -/
inductive Cutting
  | words
  | lines
  | marked (mark : Char)

/-- The words of the input; quotes keep blanks together. The answer is a quote that is not closed. -/
def inputWords : Nat → Option (List Char) → List Char → Except Char (List (List Char))
  | 0, _, _ => .ok []
  | _ + 1, current, [] => .ok current.toList
  | fuel + 1, current, c :: rest =>
    let grown (more : List Char) : Option (List Char) := some (current.getD [] ++ more)
    if c = '\\' then inputWords fuel (grown (rest.take 1)) (rest.drop 1)
    else if c = '\'' || c = '"' then
      let inner := rest.takeWhile fun d => d ≠ c && d ≠ '\n'
      if (rest.drop inner.length).head? = some c then inputWords fuel (grown inner) (rest.drop (inner.length + 1))
      else .error c
    else if c = ' ' || c = '\t' || c = '\n' then
      (inputWords fuel none rest).map fun more => current.toList ++ more
    else inputWords fuel (grown [c]) rest

/-- A text with a mark replaced. -/
def replaced (mark text : List Char) : Nat → List Char → List Char
  | 0, cs => cs
  | _ + 1, [] => []
  | fuel + 1, c :: rest =>
    if mark.isPrefixOf (c :: rest) && !mark.isEmpty then text ++ replaced mark text fuel ((c :: rest).drop mark.length)
    else c :: replaced mark text fuel rest

/-- A list in parts of some size. -/
def inParts (size : Nat) : Nat → List α → List (List α)
  | 0, _ => []
  | _ + 1, [] => []
  | fuel + 1, xs => xs.take (max size 1) :: inParts size fuel (xs.drop (max size 1))

/-- Runs a command with arguments from the input. -/
def arguments : Starting := fun e =>
  withChoices ["0/null", "a/arg-file=", "d/delimiter=", "E=", "e/eof=?", "I=", "i/replace=?", "L/max-lines=",
    "l=?", "n/max-args=", "P/max-procs=", "p/interactive", "r/no-run-if-empty", "s/max-chars=", "t/verbose",
    "x/exit", "/show-limits", "o/open-tty"] (fun chosen words => do
    let s ← get
    let path := (surroundings s).get? "PATH"
    let command := if words.isEmpty then ["echo"] else words
    let source ← match value? chosen "a" with
      | some file => readSource file
      | none => .ok <$> takeInput
    match source with
    | .error r => fail ("Cannot open input file " ++ quotedFor s ((value? chosen "a").getD "") ++ ": " ++ r.text)
    | .ok bytes => do
      let text := Encoding.decode s.charset bytes
      let mark := match has chosen "0", value? chosen "d" with
        | true, _ => some '\x00'
        | false, some d => if d = "\\n" then some '\n' else if d = "\\0" then some '\x00' else if d = "\\t" then
            some '\t' else d.toList.head?
        | false, none => none
      let replace := (value? chosen "I").orElse fun _ => (value? chosen "i").map fun t => if t = "" then "\x7b\x7d"
        else t
      let cut (m : Char) (cs : List Char) : List (List Char) :=
        let parts := Text.splitAt m cs
        if parts.getLast? = some [] then parts.dropLast else parts
      let items : Except Char (List (List Char)) :=
        match mark, replace with
        | some m, _ => .ok (cut m text)
        | none, some _ =>
          .ok (((cut '\n' text).map fun l => l.dropWhile fun c => c = ' ' || c = '\t').filter (!·.isEmpty))
        | none, none =>
          match value? chosen "L" with
          | some _ => .ok (cut '\n' text |>.filter (!·.isEmpty))
          | none => inputWords (text.length + 1) none text
      match items with
      | .error c =>
        fail ("unmatched " ++ (if c = '"' then "double" else "single") ++
          " quote; by default quotes are special to xargs unless you use the -0 option")
      | .ok items =>
        let texts := items.map String.ofList
        let calls : List (List String) :=
          match replace with
          | some r => texts.map fun t => command.map fun w =>
              String.ofList (replaced r.toList t.toList (w.length + 1) w.toList)
          | none =>
            match (value? chosen "n").bind Text.natural?, (value? chosen "L").bind Text.natural? with
            | some n, _ => (inParts n (texts.length + 1) texts).map (command ++ ·)
            | none, some n =>
              (inParts n (texts.length + 1) texts).map fun ls =>
                command ++ (ls.flatMap fun l => (splitWords (l.length + 1) l.toList).map String.ofList)
            | none, none => if texts.isEmpty then [] else [command ++ texts]
        let calls := if calls.isEmpty && replace.isNone && !has chosen "r" then [command] else calls
        runAll e path chosen calls 0) 1 false
where
  /-- Runs commands one after another; the answer is the status for all of them. -/
  runAll (e : Engine) (path : Option String) (chosen : List Choice) : List (List String) → Nat → Act Nat
    | [], status => pure status
    | call :: rest, status => do
      if has chosen "t" then say 2 (Text.joinWith " " (call.map plainlyQuoted))
      let s ← get
      let before := s.descriptors
      if (value? chosen "a").isNone then redirect 0 .nowhere
      let answer ← run e (surroundings s) path (call.headD "") (call.drop 1)
      modify fun t => { t with descriptors := before }
      match answer with
      | .error r => do
        remark (call.headD "" ++ ": " ++ r.text)
        pure (if r = .noEntry then 127 else 126)
      | .ok n =>
        if n = 255 then do
          remark (call.headD "" ++ ": exited with status 255; aborting")
          pure 124
        else if 128 ≤ n then do
          remark (call.headD "" ++ ": terminated by signal " ++ toString (n - 128))
          pure 125
        else runAll e path chosen rest (if n = 0 then status else 123)

/-- Shows which programs names lead to. -/
def which : Plain :=
  withChoices ["a", "s"] fun chosen words => do
    let s ← get
    words.foldlM (fun status name => do
      let paths := (programPaths s name)
      let paths := if has chosen "a" then paths else paths.take 1
      if !has chosen "s" then paths.forM (say 1)
      pure (if paths.isEmpty then 1 else status)) (if words.isEmpty then 1 else 0)

end Tool
end LintRun.Shell
