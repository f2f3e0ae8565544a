import LintRun.Shell.Builtin.Basic

/-!
# Shell — Built-in commands: control

The commands that leave loops, functions, files and shells, and the one that drops arguments.
-/

namespace LintRun.Shell

/-- The status that an argument names, in one byte. -/
def statusOf? (d : Dialect) (text : String) : Option Nat :=
  match d with
  | .bash => (plainInteger? text).map fun n => (n % 256).toNat
  | .posix => (Text.natural? text).map (· % 256)

/-- Too many arguments end one of the shells. -/
def refuseMany (name : String) : Act α := do
  complain (name ++ ": too many arguments")
  exit 1

/-- Leaves a function, a file or the shell with a status. -/
def leave (name : String) (flow : Flow) (arguments : List String) : Act Nat := do
  let s ← get
  let arguments := match s.isBash, arguments with
    | true, "--" :: rest => rest
    | _, words => words
  match arguments with
  | [] => do
    -- a command that is set up for a signal or the end goes back to the status before it
    let goesBack := s.answering.contains "EXIT" || (!s.isBash && !s.answering.isEmpty)
    if flow = .exited && goesBack then setStatus s.earlier
    throw flow
  | a :: more =>
    match statusOf? s.dialect a with
    | some n => do
      if s.isBash && !more.isEmpty then refuseMany name
      setStatus n
      throw flow
    | none =>
      match s.dialect with
      | .bash => do
        complain (name ++ ": " ++ a ++ ": numeric argument required")
        setStatus 2
        throw flow
      | .posix => abort (name ++ ": Illegal number: " ++ a)

def returnWith (arguments : List String) : Act Nat := do
  let s ← get
  if s.frames.all fun f => f.kind = .script then
    match s.dialect with
    | .bash => do
      if let [a] := arguments then
        if (statusOf? .bash a).isNone then complain ("return: " ++ a ++ ": numeric argument required")
      refuse "return" "can only \x60return' from a function or sourced script" 2
    | .posix => leave "return" .exited arguments
  else leave "return" .returned arguments

/-- Leaves so many loops, or starts them anew. -/
def leaveLoop (name : String) (flow : Nat → Flow) (arguments : List String) : Act Nat := do
  let s ← get
  match s.dialect with
  | .bash =>
    if s.loops = 0 then do
      complain (name ++ ": only meaningful in a \x60for', \x60while', or \x60until' loop")
      pure 0
    else
      let arguments := match arguments with
        | "--" :: rest => rest
        | words => words
      match arguments with
      | [] => do
        setStatus 0
        throw (flow 1)
      | a :: more =>
        match plainInteger? a with
        | none => do
          complain (name ++ ": " ++ a ++ ": numeric argument required")
          exit 128
        | some n => do
          if !more.isEmpty then refuseMany name
          if n < 1 then
            complain (name ++ ": " ++ a ++ ": loop count out of range")
            setStatus 1
            throw (.broken s.loops)
          else
            setStatus 0
            throw (flow (min n.toNat s.loops))
  | .posix =>
    match arguments with
    | a :: _ =>
      match Text.natural? a with
      | some (n + 1) =>
        if s.loops = 0 then pure 0
        else do
          setStatus 0
          throw (flow (min (n + 1) s.loops))
      | _ => abort (name ++ ": Illegal number: " ++ a)
    | [] =>
      if s.loops = 0 then pure 0
      else do
        setStatus 0
        throw (flow 1)

def shift (arguments : List String) : Act Nat := do
  let s ← get
  let arguments := match s.isBash, arguments with
    | true, "--" :: rest => rest
    | _, words => words
  let drop (n : Nat) : Act Nat := do
    if n ≤ s.arguments.length then
      set { s with arguments := s.arguments.drop n }
      pure 0
    else match s.dialect with
      | .bash => pure 1
      | .posix => abort "shift: can't shift that many"
  match arguments with
  | [] => drop 1
  | a :: more =>
    match s.dialect with
    | .bash =>
      match plainInteger? a with
      | none => refuse "shift" (a ++ ": numeric argument required") 1
      | some n => do
        if !more.isEmpty then refuseMany "shift"
        if n < 0 then refuse "shift" (a ++ ": shift count out of range") 1 else drop n.toNat
    | .posix =>
      match Text.natural? a with
      | some n => drop n
      | none => abort ("shift: Illegal number: " ++ a)

end LintRun.Shell
