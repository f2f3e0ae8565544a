import LintRun.Shell.Invoke
import LintRun.Shell.Redirection

/-!
# Shell — Simple commands

A name with arguments, assignments in front, and redirections.

* `expandArguments`: the operands that the words of a command stand for.
* `runSimple`: runs a simple command.
-/

namespace LintRun.Shell

/-- The operands that the words of a command stand for. -/
def expandArguments (e : Engine) : List Argument → Act (List Operand)
  | [] => pure []
  | .word w :: rest => do
    let own ← wordFields e w
    let more ← expandArguments e rest
    pure (own.map Operand.text ++ more)
  | .assignment (.mk name subscript append value source) :: rest => do
    let key ← expandSubscript e subscript
    let own ← match value with
      | .word w => do
        let text ← assignedText e w
        pure (Operand.text (assignmentHead name key append ++ text))
      | .list items => do
        let elements ← expandItems e items
        pure (Operand.list name append elements (String.ofList source))
    let more ← expandArguments e rest
    pure (own :: more)

/-- An operand as a trace shows it. -/
def Operand.shown (s : State) : Operand → String
  | .text t => tracedWord s t
  | .list name _ _ source => if s.isBash then name else source

/-- Shows a command with its assignments, if that is asked for. -/
def traceCommand (e : Engine) (assigned : List String) (operands : List Operand) : Act Unit := do
  let s ← get
  if s.has "xtrace" then
    refreshMark e
    if s.isBash then operands.forM traceOperand
    let front := if s.isBash then [] else assigned
    traceOn (Text.joinWith " " (front ++ operands.map (Operand.shown s)))

/-- The names of the variables that assignments are about. -/
def assignedNames (assignments : List Assignment) : List String := assignments.map fun (.mk name _ _ _ _) => name

/-- A command without a name: assignments that stay, and redirections that lead nowhere. -/
def runNothing (e : Engine) (assignments : List Assignment) (redirects : List Redirect) : Act Unit := do
  let settle : Act Unit := do if !(← get).substituted then setStatus 0
  match (← get).dialect with
  | .bash =>
    let _ ← makeAssignments e assignments
    withDescriptors redirects do if ← makeRedirects e redirects then settle
    modify fun s => { s with lastArgument := "" }
  | .posix =>
    withDescriptors redirects do
      if ← makeRedirects e redirects then
        let shown ← makeAssignments e assignments
        if !shown.isEmpty then traceCommand e shown []
        settle

/-- Runs what some operands stand for, with assignments and redirections of their own. -/
def runNamed (e : Engine) (assignments : List Assignment) (operands : List Operand) (redirects : List Redirect) :
    Act Unit := do
  let s ← get
  let name := (operands.head?.map Operand.plain).getD ""
  let isFunction := (s.functions.lookup name).isSome
  let isSpecial := specialNames.contains name && isBuiltin s name && !(s.isBash && isFunction)
  let stays := name = "exec" && operands.length = 1 && isSpecial
  let around (act : Act Unit) : Act Unit := if stays then act else feeding e (withDescriptors redirects act)
  match s.dialect with
  | .bash =>
    withVariables (assignedNames assignments) do
      let _ ← makeLentAssignments e assignments
      traceCommand e [] operands
      around do if ← makeRedirects e redirects then invoke e true operands
    modify fun s => { s with lastArgument := (operands.getLast?.map Operand.plain).getD "" }
  | .posix =>
    around do
      if ← makeRedirects e redirects then
        if isSpecial then
          let shown ← makeAssignments e assignments
          traceCommand e shown operands
          invoke e true operands
        else
          withVariables (assignedNames assignments) do
            let shown ← makeLentAssignments e assignments
            traceCommand e shown operands
            invoke e true operands
      else if isSpecial then exit (← get).status

/-- Notes how the last command has ended as if it were a pipeline. -/
def noteStage : Act Unit := modify fun s => { s with stages := [s.status] }

/-- Runs a simple command. -/
def runSimple (e : Engine) (line : Nat) (assignments : List Assignment) (words : List Argument)
    (redirects : List Redirect) : Act Unit := do
  let act : Act Unit := do
    announce e (.command (.simple line assignments words redirects))
    modify fun s => { s with substituted := false }
    match ← expandArguments e words with
    | [] => runNothing e assignments redirects
    | operands => runNamed e assignments operands redirects
    noteStage
    answerSignals e
    checkFailure e
  match (← get).dialect with
  | .bash => atLine line act
  | .posix => do
    modify fun s => { s with line }
    act

end LintRun.Shell
