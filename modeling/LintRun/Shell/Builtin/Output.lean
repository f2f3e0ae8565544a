import LintRun.Shell.Builtin.Declare
import LintRun.Shell.Format

/-!
# Shell — Built-in commands: output

* `echo`, `printf`, `workingDirectory`: commands that print something.
* `reportLost`: what is said when something could not be written.
-/

namespace LintRun.Shell

def echo (arguments : List String) : Act Nat := do
  let s ← get
  let bytes :=
    if s.isBash && s.has "xpg_echo" then echoBytes .posix arguments else echoBytes s.dialect arguments
  write 1 bytes
  pure 0

/-- The bytes up to the end of the last line, and those after it. -/
def cutLastLine (bytes : List UInt8) : List UInt8 × List UInt8 :=
  let unfinished := (bytes.reverse.takeWhile (· ≠ 10)).reverse
  (bytes.take (bytes.length - unfinished.length), unfinished)

/-- Makes what has happened while a format was filled. One dialect writes whole lines at once, the other one writes
all at the end. -/
def replay (d : Dialect) (waiting : List UInt8) : List Event → Act Unit
  | [] => write 1 waiting
  | .bytes bs :: rest => replay d (waiting ++ bs) rest
  | .complaint text :: rest => do
    match d with
    | .bash => do
      let (done, unfinished) := cutLastLine waiting
      write 1 done
      complain text
      replay d unfinished rest
    | .posix => do
      complain text
      replay d waiting rest
  | .count name n :: rest => do
    let _ ← store name none (toString n)
    replay d waiting rest

/-- A variable or an element of one gets the text that a command makes. -/
def giveTo (command target : String) (text : String) : Act Nat := do
  match (Operand.text target).declared? with
  | some { name, subscript, value := none, .. } => do
    if ← give name subscript false (.text text) then pure 0 else pure 1
  | _ => refuse command ("\x60" ++ target ++ "': not a valid identifier") 2

def printf (arguments : List String) : Act Nat := do
  withOptions "printf" (if (← get).isBash then "v:" else "") arguments fun flags words => do
    let s ← get
    match words with
    | [] =>
      match s.dialect with
      | .bash => usage "printf"
      | .posix => refuse "printf" "usage: printf format [arg ...]" 2
    | format :: rest => do
      let o := printed (.shell s.dialect) (Escape.bare s.charset) format rest
      match flagValue? flags 'v' with
      | some target => do
        if ((Operand.text target).declared?).isNone then
          refuse "printf" ("\x60" ++ target ++ "': not a valid identifier") 2
        else
          o.events.forM fun
            | .complaint text => complain text
            | .count name n => do let _ ← store name none (toString n)
            | .bytes _ => pure ()
          let text := String.ofList (Encoding.decode s.charset (o.bytes.takeWhile (· ≠ 0)))
          let status ← giveTo "printf" target text
          pure (max status o.status)
      | none => do
        replay s.dialect [] o.events
        pure o.status

def workingDirectory (arguments : List String) : Act Nat :=
  withOptions "pwd" "LP" arguments fun _ _ => do
    say 1 (directoryText (← get).tree)
    pure 0

/-- Says what could not be written, if anything. -/
def reportLost (name : String) (status : Nat) : Act Nat := do
  let s ← get
  match s.lost with
  | none => pure status
  | some text => do
    set { s with lost := none }
    match s.dialect with
    | .bash => complain (name ++ ": write error: " ++ text)
    | .posix => complain (name ++ ": " ++ name ++ ": I/O error")
    pure 1

end LintRun.Shell
