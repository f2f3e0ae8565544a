import LintRun.Shell.Reader.Part

/-!
# Shell — Reading scripts

Commands, and the lines of a script.

* `readList`: the commands up to a word that closes them.
* `readLine`: the commands of one line, which a shell runs before it reads on.

Every reader takes a bound on its depth, which is never reached: each call takes a character or leads to one that
does.
-/

namespace LintRun.Shell

/-- What may stand at a place of a simple command. -/
inductive Phase
  /-- Assignments, and the name of the command. -/
  | front
  /-- Arguments of a command that declares variables. -/
  | declaring
  /-- Other arguments. -/
  | plain
  deriving DecidableEq

/-- The commands whose arguments may be assignments. -/
def declarers : Dialect → List String
  | .bash => ["alias", "declare", "export", "local", "readonly", "typeset", "eval", "let"]
  | .posix => ["export", "readonly", "local"]

/-- A part of a simple command. -/
inductive SimplePart
  | redirect (r : Redirect)
  | assignment (a : Assignment)
  | argument (a : Argument)

/-- The phase after the name of a command. -/
def Phase.after (d : Dialect) (name : Word) : Phase :=
  if (name.plain?).any fun t => (declarers d).contains t then .declaring else .plain

/-- The parts of a simple command, each with the line that it is known on. -/
def readElements (inner : Read (List Command)) (phase : Phase) : Nat → Read (List (SimplePart × Nat))
  | 0 => unexpected
  | fuel + 1 => do
    blanks
    let p ← get
    match ← readRedirect? inner with
    | some r => do
      let more ← readElements inner phase fuel
      pure ((.redirect r, p.line) :: more)
    | none =>
      match ← (if phase = .plain then pure none else readAssignment? inner true) with
      | some a => do
        let line := (← get).line
        let more ← readElements inner phase fuel
        pure ((if phase = .front then .assignment a else .argument (.assignment a), line) :: more)
      | none => do
        let w ← readWord inner
        if w.source.isEmpty then
          set p
          pure []
        else
          let line := (← get).line
          let next := if phase = .front then Phase.after p.manner.dialect w else phase
          -- the name of a function is followed by brackets
          if phase = .front && (← get).blanks.starts "(" then pure [(.argument (.word w), line)]
          else
            let more ← readElements inner next fuel
            pure ((.argument (.word w), line) :: more)

/-- The line of a simple command. One dialect knows that a word is no name of a function after the next part. -/
def commandLine (d : Dialect) (start last : Nat) (parts : List (SimplePart × Nat)) : Nat :=
  match d, parts with
  | .bash, [(.argument _, _)] => last
  | .bash, (.argument _, _) :: (_, line) :: _ => line
  | .bash, (_, line) :: _ => line
  | _, _ => start

/-- Words up to something else. -/
def readWords (inner : Read (List Command)) : Nat → Read (List Word)
  | 0 => unexpected
  | fuel + 1 => do
    blanks
    let w ← readWord inner
    if w.source.isEmpty then pure []
    else
      let more ← readWords inner fuel
      pure (w :: more)

/-- Patterns with bars between them, up to a closing bracket. -/
def readPatterns (inner : Read (List Command)) : Nat → Read (List Word)
  | 0 => unexpected
  | fuel + 1 => do
    blanks
    let w ← readWord inner
    if w.source.isEmpty then unexpected
    else
      blanks
      if (← get).starts "||" then unexpected
      else if ← accept "|" then
        let more ← readPatterns inner fuel
        pure (w :: more)
      else if ← accept ")" then pure [w]
      else unexpectedWord (some ")")

/-- A text with those of aliases in the place of their names at its front. If one ends with a blank, the next word may
be an alias, too. -/
def expandAliases (m : Manner) (used : List String) : Nat → List Char → List Char
  | 0, cs => cs
  | fuel + 1, cs =>
    let name := String.ofList (cs.takeWhile fun c => !isMeta c && !"\"'\\$\x60".toList.contains c)
    match m.aliases.lookup name with
    | some text =>
      if used.contains name || (m.dialect = .posix && (reserved .posix).contains name) then cs
      else
        let after := cs.drop name.length
        let gap := after.takeWhile Text.isPlainBlank
        let goesOn := text.toList.getLast?.any Text.isPlainBlank
        let after := if goesOn then gap ++ expandAliases m [] fuel (after.drop gap.length) else after
        expandAliases m (name :: used) fuel (text.toList ++ after)
    | none => cs

/-- The three expressions in the head of a loop, and the place after its brackets. -/
def readCounting (inner : Read (List Command)) : Read (Word × Word × Word) := do
  let p ← get
  match sumLength? (p.rest.drop 2) with
  | none => unexpected
  | some n => do
    let text := (p.rest.drop 2).take n
    let source := "((" ++ String.ofList text ++ "))"
    match Text.splitAt ';' text with
    | [a, b, c] => do
      let start ← readText inner .sum a
      let test ← readText inner .sum b
      let step ← readText inner .sum c
      set (p.skip (n + 4))
      pure (start, test, step)
    | parts =>
      fail (.counting (if parts.length < 3 then "arithmetic expression required" else "\x60;' unexpected") source)

/-- The words that start a compound command. -/
def compoundStarts : Dialect → List String
  | .bash => ["\x7b", "if", "while", "until", "for", "case", "select", "[["]
  | .posix => ["\x7b", "if", "while", "until", "for", "case"]

mutual

/-- The clauses of a choice between patterns. -/
def readClauses : Nat → Read (List (List Word × List Command × ClauseEnd))
  | 0 => unexpected
  | fuel + 1 => do
    lines
    if (← get).sees "esac" then
      skip 4
      pure []
    else
      let _ ← accept "("
      let patterns ← readPatterns (readList true fuel) (readBound (← get))
      let body ← readList true fuel
      lines
      let p ← get
      let next (size : Nat) (ending : ClauseEnd) : Read (List (List Word × List Command × ClauseEnd)) := do
        set (p.skip size)
        let more ← readClauses fuel
        pure ((patterns, body, ending) :: more)
      if p.isBash && p.starts ";;&" then next 3 .tryNext
      else if p.isBash && p.starts ";&" then next 2 .fallThrough
      else if p.starts ";;" then next 2 .stop
      else if p.sees "esac" then next 0 .stop
      else unexpected (some ";;")

/-- The clauses of a condition, after its first word. -/
def readBranches : Nat → Read Command
  | 0 => unexpected
  | fuel + 1 => do
    let condition ← readList false fuel
    expect "then"
    let body ← readList false fuel
    lines
    let p ← get
    if p.sees "elif" then
      skip 4
      match ← readBranches fuel with
      | .branch clauses otherwise => pure (.branch ((condition, body) :: clauses) otherwise)
      | _ => unexpected
    else if p.sees "else" then
      skip 4
      let otherwise ← readList false fuel
      expect "fi"
      pure (.branch [(condition, body)] otherwise)
    else
      expect "fi"
      pure (.branch [(condition, body)] [])

/-- The body of a loop. -/
def readBody (braces : Bool) : Nat → Read (List Command)
  | 0 => unexpected
  | fuel + 1 => do
    lines
    if braces && (← get).isBash && (← get).sees "\x7b" then
      skip 1
      let body ← readList false fuel
      expect "\x7d"
      pure body
    else
      expect "do"
      let body ← readList false fuel
      expect "done"
      pure body

/-- A loop over words, after its first word. -/
def readEach (menu : Bool) : Nat → Read Command
  | 0 => unexpected
  | fuel + 1 => do
    let line := (← get).line
    blanks
    if !menu && (← get).isBash && (← get).starts "((" then
      let (start, test, step) ← readCounting (readList true fuel)
      blanks
      let _ ← accept ";"
      let body ← readBody true fuel
      pure (.count line start test step body)
    else
      let w ← readWord (readList true fuel)
      let p ← get
      if !p.isBash && !isName w.source then
        throw ⟨if p.starts "\n" then p.line + 1 else p.line, .loopVariable, none, false⟩
      else if w.source.isEmpty then unexpected
      else
        lines
        let words ← if (← get).sees "in" then do
            skip 2
            let words ← readWords (readList true fuel) (readBound (← get))
            let p ← get
            if !(p.starts ";" && !p.starts ";;" || p.starts "\n") then unexpected
            pure (some words)
          else pure none
        blanks
        let p ← get
        if p.starts ";" && !p.starts ";;" then skip 1
        let body ← readBody true fuel
        let name := String.ofList w.source
        pure (if menu then .menu line name words body else .each line name words body)

/-- The body of a function, after the brackets behind its name. -/
def readFunction (name : String) : Nat → Read Command
  | 0 => unexpected
  | fuel + 1 => do
    lines
    let p ← get
    if p.isBash && !(p.starts "(") && !((compoundStarts .bash).any p.sees) then unexpected
    else
      let body ← readCommand fuel
      let last := (← get).line
      pure (.define (if p.starts "\x7b" then p.line else last) name body)

/-- A simple command or the definition of a function. -/
def readSimple : Nat → Read Command
  | 0 => unexpected
  | fuel + 1 => do
    let p ← get
    let parts ← readElements (readList true fuel) .front (readBound p)
    let elements := parts.map Prod.fst
    let line := commandLine p.manner.dialect p.line (← get).blanks.line parts
    match elements with
    | [] => unexpected
    | [.argument (.word w)] =>
      let after := (← get).blanks
      if after.starts "(" then
        set (after.skip 1)
        blanks
        if ← accept ")" then
          if !p.isBash && !isName w.source then fail .functionName
          else readFunction (String.ofList w.source) fuel
        else unexpectedWord (some ")")
      else pure (.simple line [] [.word w] [])
    | _ =>
      let assignments := elements.filterMap fun
        | .assignment a => some a
        | _ => none
      let words := elements.filterMap fun
        | .argument a => some a
        | _ => none
      let redirects := elements.filterMap fun
        | .redirect r => some r
        | _ => none
      pure (.simple line assignments words redirects)

/-- A command. -/
def readCommand : Nat → Read Command
  | 0 => unexpected
  | fuel + 1 => do
    blanks
    let m := (← get).manner
    if !m.aliases.isEmpty then
      modify fun p => { p with rest := expandAliases m [] (4 * m.aliases.length + 4) p.rest }
      blanks
    let p ← get
    let compound (c : Command) : Read Command := do
      let redirects ← readRedirects (readList true fuel) (readBound (← get))
      pure (if redirects.isEmpty then c else .redirected p.line c redirects)
    match (if p.isBash && p.starts "((" then sumLength? (p.rest.drop 2) else none) with
    | some n => do
      let w ← readText (readList true fuel) .sum ((p.rest.drop 2).take n)
      set (p.skip (n + 4))
      compound (.calculate (← get).line w)
    | none =>
      if p.isBash && p.sees "[[" then
        skip 2
        let j ← readJudgement (readList true fuel)
        compound (.judge (← get).line j)
      else if p.starts "(" then
        skip 1
        let body ← readList false fuel
        expect ")"
        compound (.subshell body)
      else if p.sees "\x7b" then
        skip 1
        let body ← readList false fuel
        expect "\x7d"
        compound (.group body)
      else if p.sees "if" then
        skip 2
        let c ← readBranches fuel
        compound c
      else if p.sees "while" || p.sees "until" then
        skip 5
        let condition ← readList false fuel
        let body ← readBody false fuel
        compound (.loop (p.sees "while") condition body)
      else if p.sees "for" then
        skip 3
        let c ← readEach false fuel
        compound c
      else if p.isBash && p.sees "select" then
        skip 6
        let c ← readEach true fuel
        compound c
      else if p.sees "case" then
        skip 4
        blanks
        let w ← readWord (readList true fuel)
        if w.source.isEmpty then unexpected (some "word")
        else
          expect "in"
          let clauses ← readClauses fuel
          compound (.select p.line w clauses)
      else if p.isBash && p.sees "function" then
        skip 8
        blanks
        let w ← readWord (readList true fuel)
        if w.source.isEmpty then unexpected
        else
          blanks
          if ← accept "(" then
            blanks
            if !(← accept ")") then unexpected
          readFunction (String.ofList w.source) fuel
      else if p.closes then unexpected
      else readSimple fuel

/-- Commands with bars between them. -/
def readStages : Nat → Read (List Command)
  | 0 => unexpected
  | fuel + 1 => do
    let first ← readCommand fuel
    blanks
    let p ← get
    if p.isBash && p.starts "|&" then
      set (p.skip 2).lines
      let more ← readStages fuel
      let both : Redirect := .mk (some (.number 2)) .copyOut (.mk ['1'] [.text ['1'] false])
      let first := match first with
        | .simple line assignments words redirects => .simple line assignments words (redirects ++ [both])
        | c => .redirected p.line c [both]
      pure (first :: more)
    else if p.starts "|" && !p.starts "||" then
      set (p.skip 1).lines
      let more ← readStages fuel
      pure (first :: more)
    else pure [first]

/-- A pipeline, which an exclamation mark may negate. -/
def readPipeline : Nat → Read Command
  | 0 => unexpected
  | fuel + 1 => do
    blanks
    let p ← get
    let nothing (p : Place) : Bool := p.rest.isEmpty || p.starts "\n" || p.starts ";" && !p.starts ";;"
    if p.sees "!" then
      skip 1
      blanks
      if p.isBash && nothing (← get) then pure (.pipeline true [])
      else
        if !p.isBash && (← get).sees "!" then unexpected
        match ← readPipeline fuel with
        | .pipeline negated stages => pure (.pipeline (!negated) stages)
        | c => pure (.pipeline true [c])
    else if p.isBash && p.sees "time" then
      skip 4
      blanks
      let plain := (← get).sees "-p"
      if plain then skip 2
      blanks
      if nothing (← get) then pure (.timed plain (.group []))
      else
        let c ← readPipeline fuel
        pure (.timed plain c)
    else
      match ← readStages fuel with
      | [c] => pure c
      | stages => pure (.pipeline false stages)

/-- What follows a pipeline that one has been joined to. -/
def readJoined (first : Command) : Nat → Read Command
  | 0 => unexpected
  | fuel + 1 => do
    blanks
    let p ← get
    if p.starts "&&" then
      set (p.skip 2).lines
      let second ← readPipeline fuel
      readJoined (.both first second) fuel
    else if p.starts "||" then
      set (p.skip 2).lines
      let second ← readPipeline fuel
      readJoined (.either first second) fuel
    else pure first

/-- Commands up to a word that closes the list; `empty` tells whether there may be none. -/
def readList (empty : Bool) : Nat → Read (List Command)
  | 0 => unexpected
  | fuel + 1 => do
    lines
    let p ← get
    if p.closes then
      if empty || (!p.isBash && p.rest.isEmpty) then pure [] else unexpected
    else
      let first ← readPipeline fuel
      let first ← readJoined first fuel
      blanks
      let p ← get
      if p.starts ";;" || (p.isBash && p.starts ";&") then pure [first]
      else if p.starts ";" || p.starts "\n" then
        set (p.skip 1)
        let more ← readList true fuel
        pure (first :: more)
      else if p.starts "&" then
        set (p.skip 1)
        let more ← readList true fuel
        pure (.background first :: more)
      else pure [first]

end

/-- The commands of the line that starts here. -/
def readLineWithin : Nat → Read (List Command)
  | 0 => unexpected
  | fuel + 1 => do
    let bound := 2 * readBound (← get)
    let first ← readPipeline bound
    let first ← readJoined first bound
    blanks
    let p ← get
    let go (first : Command) : Read (List Command) := do
      set (p.skip 1)
      blanks
      let p ← get
      if p.rest.isEmpty || p.starts "\n" then pure [first]
      else
        let more ← readLineWithin fuel
        pure (first :: more)
    if p.starts ";" && !p.starts ";;" && !(p.isBash && p.starts ";&") then go first
    else if p.starts "&" then go (.background first)
    else if p.rest.isEmpty || p.starts "\n" then pure [first]
    else unexpected

/-- The commands of the line that starts here. -/
def readLine : Read (List Command) := do
  readLineWithin ((← get).rest.length + 1)

end LintRun.Shell
