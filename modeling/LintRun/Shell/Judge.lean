import LintRun.Shell.Assign
import LintRun.Shell.Condition
import LintRun.Shell.Regex

/-!
# Shell — Judgements

Conditions between double brackets, whose words are not cut into fields.

* `judge`: the status of a condition.
-/

namespace LintRun.Shell

/-- An operand as a trace shows it. -/
def shownOperand (text : String) : String := if text = "" then "''" else text

/-- A pattern as a trace shows it: what is quoted has a backslash in front. -/
def shownPattern (gs : List Glyph) : String :=
  if gs.isEmpty then "''"
  else String.ofList (gs.flatMap fun g => if g.quoted then ['\\', g.char] else [g.char])

/-- Whether a text matches a regular expression; the parts that match are remembered. -/
def matchRegex (text : String) (gs : List Glyph) : Act Nat := do
  let s ← get
  let style : RegexStyle := { extended := true, fold := s.has "nocasematch" }
  match Regex.read style (regexText gs) with
  | .error _ => pure 2
  | .ok r =>
    let chars := text.toList.toArray
    let part (i j : Nat) : String := String.ofList (chars.extract i j).toList
    let (status, parts) := match Regex.find? style chars r 0 with
      | none => (1, [])
      | some (i, j, groups) =>
        let group (n : Nat) : String := match groups.lookup (n + 1) with
          | some (a, b) => part a b
          | none => ""
        (0, part i j :: (List.range (Regex.groupCount r)).map group)
    setVariable "BASH_REMATCH" (.ofList parts)
    pure status

/-- The value of an expression in a condition. -/
def judgedNumber (text : String) : Act (Option Int) := calculate? "[[" text.toList

def truthStatus (b : Bool) : Nat := if b then 0 else 1

/-- A condition on one word. -/
def judgeUnary (e : Engine) (mark op : String) (operand : Word) : Act Nat := do
  let text ← wordText e operand
  trace e ("[[ " ++ mark ++ op ++ " " ++ shownOperand text ++ " ]]")
  pure (truthStatus (Condition.unary (← get) op text))

/-- A condition on two words. -/
def judgeBinary (e : Engine) (mark op : String) (left right : Word) : Act Nat := do
  let text ← wordText e left
  let gs ← wordGlyphs e right
  let s ← get
  let isPattern := op = "=" || op = "==" || op = "!="
  let shown := if isPattern then shownPattern gs else shownOperand (textOf gs)
  trace e ("[[ " ++ mark ++ shownOperand text ++ " " ++ op ++ " " ++ shown ++ " ]]")
  if isPattern then
    let accepted := (Pattern.ofGlyphs true gs).accepts (s.has "nocasematch") text.toList
    pure (truthStatus (if op = "!=" then !accepted else accepted))
  else if op = "=~" then matchRegex text gs
  else
    let numeric (test : Int → Int → Bool) : Act Nat := do
      match ← judgedNumber text with
      | none => pure 1
      | some a =>
        match ← judgedNumber (textOf gs) with
        | none => pure 1
        | some b => pure (truthStatus (test a b))
    match op with
    | "-eq" => numeric (· == ·)
    | "-ne" => numeric (· != ·)
    | "-lt" => numeric (· < ·)
    | "-le" => numeric (· ≤ ·)
    | "-gt" => numeric (· > ·)
    | "-ge" => numeric (· ≥ ·)
    | _ =>
      match Condition.binary s op text (textOf gs) with
      | .ok b => pure (truthStatus b)
      | .error _ => pure 2

/-- The status of a condition; `mark` is what a trace shows in front of it. -/
def judgeMarked (e : Engine) (mark : String) : Judgement → Act Nat
  | .word w => judgeUnary e mark "-n" w
  | .unary op w => judgeUnary e mark op w
  | .binary op l r => judgeBinary e mark op l r
  | .negated j => do
    let status ← judgeMarked e (mark ++ "! ") j
    pure (if status = 0 then 1 else if status = 1 then 0 else status)
  | .grouped j => judgeMarked e mark j
  | .both a b => do
    let status ← judgeMarked e mark a
    if status = 0 then judgeMarked e mark b else pure status
  | .either a b => do
    let status ← judgeMarked e mark a
    if status = 0 then pure 0 else judgeMarked e mark b

/-- The status of a condition. -/
def judge (e : Engine) (j : Judgement) : Act Nat := judgeMarked e "" j

end LintRun.Shell
