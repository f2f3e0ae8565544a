import LintRun.Shell.Judge
import LintRun.Shell.Trap

/-!
# Shell — Compound commands

Choices and loops.

* `runBranch`: the first clause whose condition holds.
* `runClauses`: the first clause with a pattern that accepts a text.
* `runLoop`, `runEach`, `runCount`, `runMenu`: loops.
-/

namespace LintRun.Shell

/-- Notes what is about to be run, and runs the command that is set up for that. -/
def announce (e : Engine) (r : Running) : Act Unit := do
  let s ← get
  if s.answering.isEmpty then set { s with running := r }
  if (s.traps.lookup "DEBUG").isSome then runTrap e "DEBUG"

/-- A step on a line of its own; after it the shell is on the old one, unless a fault has led out of it. -/
def atLine (line : Nat) (act : Act Unit) : Act Unit := do
  let before := (← get).line
  modify fun s => { s with line }
  let flow ← outcome act
  if flow ≠ some .spoiled && flow ≠ some .exited then modify fun s => { s with line := before }
  if let some f := flow then throw f

/-! ### Choices -/

/-- The first clause whose condition holds. -/
def runBranch (e : Engine) : List (List Command × List Command) → List Command → Act Unit
  | [], otherwise => if otherwise.isEmpty then setStatus 0 else e.commands otherwise
  | (condition, body) :: rest, otherwise => do
    whileTested (e.commands condition)
    if (← get).status = 0 then e.commands body else runBranch e rest otherwise

/-- Whether one of some patterns accepts a text. -/
def acceptsAny (e : Engine) (text : String) : List Word → Act Bool
  | [] => pure false
  | w :: rest => do
    let gs ← wordGlyphs e w
    let s ← get
    if (Pattern.ofGlyphs (s.has "extglob") gs).accepts (s.has "nocasematch") text.toList then pure true
    else acceptsAny e text rest

/-- The clauses of a choice; `isOpen` tells that the commands of the first one are run whatever its patterns are, and
`found` that those of another one have been run. -/
def runClauses (e : Engine) (text : String) (isOpen found : Bool) :
    List (List Word × List Command × ClauseEnd) → Act Unit
  | [] => if found then pure () else setStatus 0
  | (patterns, body, ending) :: rest => do
    if isOpen || (← acceptsAny e text patterns) then
      if body.isEmpty then setStatus 0 else e.commands body
      match ending with
      | .stop => pure ()
      | .fallThrough => runClauses e text true true rest
      | .tryNext => runClauses e text false true rest
    else runClauses e text false found rest

/-! ### Loops -/

/-- A step inside one more loop. -/
def inLoop (act : Act Unit) : Act Unit := do
  let before := (← get).loops
  modify fun s => { s with loops := before + 1 }
  thenAlways act (modify fun s => { s with loops := before })

/-- How a loop goes on after a round. -/
inductive Round
  | next
  | done
  | leave (flow : Flow)

def roundOf : Option Flow → Round
  | none | some (.continued 0) | some (.continued 1) => .next
  | some (.continued (n + 2)) => .leave (.continued (n + 1))
  | some (.broken (n + 2)) => .leave (.broken (n + 1))
  | some (.broken _) => .done
  | some flow => .leave flow

/-- One round after another while the condition has the status that is asked for; every round takes some time. The
status is that of the last round. -/
def runLoop (e : Engine) (onSuccess : Bool) (condition body : List Command) : Nat → Nat → Act Unit
  | 0, _ => throw .stalled
  | rounds + 1, status => do
    spend 5
    match roundOf (← outcome (whileTested (e.commands condition))) with
    | .done => pure ()
    | .leave flow => throw flow
    | .next =>
      if ((← get).status = 0) != onSuccess then setStatus status
      else match roundOf (← outcome (e.commands body)) with
        | .next => do runLoop e onSuccess condition body rounds (← get).status
        | .done => pure ()
        | .leave flow => throw flow

/-- One round for each value. -/
def runEach (e : Engine) (name shown : String) (body : List Command) : List String → Act Unit
  | [] => pure ()
  | value :: rest => do
    if (← get).isBash then
      trace e shown
      announce e (.head shown)
    assign name value
    match roundOf (← outcome (e.commands body)) with
    | .next => runEach e name shown body rest
    | .done => pure ()
    | .leave flow => throw flow

/-- The text of an expression in double brackets. -/
def expressionText (e : Engine) (w : Word) : Act (List Char) := do
  let bits ← expandPieces e w.pieces
  pure ((glyphsOf bits).map Glyph.char)

/-- The value of an expression in double brackets, which is shown like this; an expression that is missing has the
value one. -/
def countingValue (e : Engine) (shown : String) (w : Word) : Act (Option Int) := do
  if (Text.trimPlain w.source).isEmpty then pure (some 1)
  else do
    trace e ("(( " ++ shown ++ " ))")
    announce e (.head ("((" ++ shown ++ "))"))
    calculate? "((" (← expressionText e w)

/-- An expression in the head of a loop as it is shown. -/
def shownExpression (w : Word) : String := String.ofList (Text.trimPlain w.source)

/-- One round after another while an expression is not zero. The status is that of the last round. -/
def runCount (e : Engine) (test step : Word) (body : List Command) : Nat → Nat → Act Unit
  | 0, _ => throw .stalled
  | rounds + 1, status => do
    spend 5
    match ← countingValue e (shownExpression test) test with
    | none => setStatus 1
    | some 0 => setStatus status
    | some _ =>
      match roundOf (← outcome (e.commands body)) with
      | .next =>
        match ← countingValue e (shownExpression step) step with
        | none => setStatus 1
        | some _ => do runCount e test step body rounds (← get).status
      | .done => pure ()
      | .leave flow => throw flow

/-! ### Menus -/

/-- Blanks from one column to another, as far as possible in the steps of tabulators. -/
def indentTo : Nat → Nat → Nat → List Char
  | 0, _, _ => []
  | fuel + 1, column, goal =>
    if goal ≤ column then []
    else if column / 8 < goal / 8 then '\t' :: indentTo fuel (column + 8 - column % 8) goal
    else ' ' :: indentTo fuel (column + 1) goal

/-- The lines of a menu. -/
def menuText (columns : Nat) (items : List String) : String :=
  let size := items.length
  let digits (n : Nat) : Nat := (toString n).length
  let longest := items.foldl (fun m i => max m i.length) 0
  let width := longest + digits size + 4
  let cols := max 1 (columns / width)
  let rows := (size + cols - 1) / cols
  let cols := (size + rows - 1) / max 1 rows
  let (rows, _) := if rows = 1 then (cols, 1) else (rows, cols)
  let entry (i : Nat) : String :=
    let own := if i < rows then digits rows else digits size
    let n := toString (i + 1)
    String.ofList (List.replicate (own - n.length) ' ') ++ n ++ ") " ++ items.getD i ""
  let row (r : Nat) : String :=
    let places := (List.range size).filter fun i => i % rows = r
    let last := places.length - 1
    Text.joinWith "" (places.zipIdx.map fun (i, c) =>
      let text := entry i
      if c = last then text
      else text ++ String.ofList (indentTo 200 (c * width + text.length) ((c + 1) * width)))
  if size = 0 then "\n" else Text.joinWith "" ((List.range rows).map fun r => row r ++ "\n")

/-- Asks for one of some words, round after round. -/
def runMenu (e : Engine) (name : String) (items : List String) (body : List Command) : Nat → Bool → Act Unit
  | 0, _ => throw .stalled
  | rounds + 1, showMenu => do
    let s ← get
    let columns := match (value? s "COLUMNS").map fun t => Text.numberOf 10 (t.toList.filter Text.isAsciiDigit) with
      | some (n + 1) => n + 1
      | _ => 80
    if showMenu then put 2 (menuText columns items)
    put 2 ((value? s "PS3").getD "#? ")
    spend 5
    let input := inputOf (← get) 0
    if input.isEmpty then
      put 1 "\n"
      setStatus 1
    else
      let line := input.takeWhile (· ≠ 10)
      leaveInput 0 (input.drop (line.length + 1))
      let reply := String.ofList (Text.trimPlain (Encoding.decode s.charset line))
      let _ ← store "REPLY" none reply
      if reply = "" then runMenu e name items body rounds true
      else
        let isNumber := reply.toList.all Text.isAsciiDigit
        let chosen := if isNumber && reply ≠ "0" then items.getD (Text.numberOf 10 reply.toList - 1) "" else ""
        assign name chosen
        match roundOf (← outcome (e.commands body)) with
        | .next => runMenu e name items body rounds (value? (← get) "REPLY" = some "")
        | .done => pure ()
        | .leave flow => throw flow

end LintRun.Shell
