import LintRun.Shell.Builtin.Basic
import LintRun.Shell.Program

/-!
# Shell — Built-in commands: names

* `builtinNames`: the names of all built-in commands.
* `describe`: what a name stands for.
* `setAliases`, `unalias`, `hash`, `enable`, `caller`, `umask`, `calculate`: further commands.
-/

namespace LintRun.Shell

/-- The names of the built-in commands. -/
def builtinNames : Dialect → List String
  | .bash =>
    [".", ":", "[", "alias", "bg", "bind", "break", "builtin", "caller", "cd", "command", "compgen", "complete",
      "compopt", "continue", "declare", "dirs", "disown", "echo", "enable", "eval", "exec", "exit", "export", "false",
      "fc", "fg", "getopts", "hash", "help", "history", "jobs", "kill", "let", "local", "logout", "mapfile", "popd",
      "printf", "pushd", "pwd", "read", "readarray", "readonly", "return", "set", "shift", "shopt", "source", "suspend",
      "test", "times", "trap", "true", "type", "typeset", "ulimit", "umask", "unalias", "unset", "wait"]
  | .posix =>
    [".", ":", "[", "alias", "bg", "break", "cd", "chdir", "command", "continue", "echo", "eval", "exec", "exit",
      "export", "false", "fg", "getopts", "hash", "jobs", "kill", "local", "printf", "pwd", "read", "readonly",
      "return",
      "set", "shift", "test", "times", "trap", "true", "type", "ulimit", "umask", "unalias", "unset", "wait"]

/-- Whether a name is that of a built-in command that is on. -/
def isBuiltin (s : State) (name : String) : Bool :=
  (builtinNames s.dialect).contains name && !s.disabled.contains name

/-- The aliases that count. -/
def liveAliases (s : State) : List (String × String) := s.manner.aliases

/-! ### What names stand for -/

/-- How a description is given: in words, as one word, as a path, or in brief. -/
inductive Form
  | words
  | kind
  | path
  | forced
  | brief

/-- Tells what a name stands for; the answer is whether it stands for anything. -/
def describeName (manner : Form) (all functionsToo : Bool) (name : String) : Act Bool := do
  let s ← get
  let rec run : List (Option (Act Unit)) → Act Bool
    | [] => pure false
    | none :: rest => run rest
    | some act :: rest => do
      act
      if all then
        let _ ← run rest
        pure true
      else pure true
  let replacement := (liveAliases s).lookup name
  let isFunction := functionsToo && (s.functions.lookup name).isSome
  let onlyPath := match manner with
    | .forced => true
    | _ => false
  let paths := programPaths s name
  let inWords (text : String) (kind brief : String) (path : Option String) : Act Unit :=
    match manner with
    | .words => say 1 text
    | .kind => say 1 kind
    | .brief => say 1 brief
    | .path | .forced => match path with
      | some p => say 1 p
      | none => pure ()
  let shown := name
  run <|
    [if onlyPath then none else replacement.map fun t =>
        inWords (shown ++ (if s.isBash then " is aliased to \x60" ++ t ++ "'" else " is an alias for " ++ t)) "alias"
          (if s.isBash then "alias " ++ name ++ "=" ++ Escape.single t else "alias " ++ name ++ "=" ++
            Escape.plain t) none,
      if onlyPath || !(reserved s.dialect).contains name then none
        else some (inWords (shown ++ " is a shell keyword") "keyword" name none),
      if onlyPath || !isFunction then none
        else some (do
          inWords (shown ++ if s.isBash then " is a function" else " is a shell function") "function" name none
          match manner, s.functions.lookup name with
          | .words, some f => if s.isBash then put 1 (Layout.shown name f.body ++ "\n")
          | _, _ => pure ()),
      if onlyPath || !isBuiltin s name then none
        else
          let special := !s.isBash && specialNames.contains name
          some (inWords (shown ++ if special then " is a special shell builtin"
            else " is a shell builtin") "builtin" name
            none)] ++
    ((if all then paths else paths.take 1).map fun p => some (inWords (shown ++ " is " ++ p) "file" p (some p)))

/-- Tells what some names stand for. -/
def describe (arguments : List String) : Act Nat := do
  withOptions "type" (if (← get).isBash then "afptP" else "") arguments fun flags words =>
    forEach words fun name => do
      let manner : Form := if hasFlag flags 't' then .kind else if hasFlag flags 'P' then .forced
        else if hasFlag flags 'p' then .path else .words
      if ← describeName manner (hasFlag flags 'a') (!hasFlag flags 'f') name then pure 0
      else
        match (← get).dialect, manner with
        | .bash, .words => refuse "type" (name ++ ": not found") 1
        | .bash, _ => pure 1
        | .posix, _ => do
          say 1 (name ++ ": not found")
          pure 127

/-- Tells in brief, or in words, what some names stand for. -/
def describeCommands (inWords : Bool) (names : List String) : Act Nat := do
  let s ← get
  let results ← (if s.isBash then names else names.take 1).mapM fun name => do
    let found ← describeName (if inWords then .words else .brief) false true name
    if !found && inWords then
      match s.dialect with
      | .bash => complain ("command: " ++ name ++ ": not found")
      | .posix => say 1 (name ++ ": not found")
    pure found
  match s.dialect with
  | .bash => pure (if results.any id then 0 else 1)
  | .posix => pure (if results.all id then 0 else 127)

/-! ### Aliases -/

def aliasLine (s : State) (name text : String) : String :=
  match s.dialect with
  | .bash => "alias " ++ name ++ "=" ++ Escape.single text
  | .posix => name ++ "=" ++ Escape.plain text

def setAliases (arguments : List String) : Act Nat := do
  withOptions "alias" (if (← get).isBash then "p" else "") arguments fun flags words => do
    let s ← get
    let sorted := s.aliases.mergeSort fun a b => Text.compareCodes a.1.toList b.1.toList != .gt
    if words.isEmpty || hasFlag flags 'p' then sorted.forM fun (n, t) => say 1 (aliasLine s n t)
    forEach words fun w => do
      match Text.cutAt? '=' w.toList with
      | some (name@(_ :: _), text) => do
        let name := String.ofList name
        modify fun s => { s with aliases := (name, String.ofList text) :: s.aliases.filter fun (n, _) => n ≠ name }
        pure 0
      | _ =>
        match (← get).aliases.lookup w with
        | some t => do
          say 1 (aliasLine s w t)
          pure 0
        | none =>
          match s.dialect with
          | .bash => refuse "alias" (w ++ ": not found") 1
          | .posix => do
            say 2 ("alias: " ++ w ++ " not found")
            pure 1

def unalias (arguments : List String) : Act Nat := do
  withOptions "unalias" "a" arguments fun flags words => do
    let s ← get
    if hasFlag flags 'a' then
      set { s with aliases := [] }
      pure 0
    else if words.isEmpty && s.isBash then usage "unalias"
    else
      forEach words fun w => do
        let s ← get
        if (s.aliases.lookup w).isSome then
          set { s with aliases := s.aliases.filter fun (n, _) => n ≠ w }
          pure 0
        else match s.dialect with
          | .bash => refuse "unalias" (w ++ ": not found") 1
          | .posix => do
            say 2 ("unalias: " ++ w ++ " not found")
            pure 1

/-! ### Further commands -/

def hash (arguments : List String) : Act Nat := do
  withOptions "hash" (if (← get).isBash then "lrp:dt" else "rv") arguments fun flags words => do
    let s ← get
    if words.isEmpty then
      if s.isBash && flags.isEmpty then say 1 "hash: hash table empty"
      pure 0
    else
      forEach words fun w => do
        if isBuiltin s w || (s.functions.lookup w).isSome then pure 0
        else match (programPaths s w).head? with
          | some p => do
            if hasFlag flags 't' then say 1 p
            pure 0
          | none =>
            match s.dialect with
            | .bash => refuse "hash" (w ++ ": not found") 1
            | .posix => refuse "hash" (w ++ ": not found") 1

def enable (arguments : List String) : Act Nat :=
  withOptions "enable" "adnpsf:" arguments fun flags words => do
    let s ← get
    if words.isEmpty then
      (builtinNames s.dialect).forM fun n => do
        let off := s.disabled.contains n
        if hasFlag flags 'a' || off = hasFlag flags 'n' then
          say 1 ("enable " ++ (if off then "-n " else "") ++ n)
      pure 0
    else
      forEach words fun n => do
        if (builtinNames s.dialect).contains n then
          modify fun s =>
            let others := s.disabled.filter (· ≠ n)
            { s with disabled := if hasFlag flags 'n' then n :: others else others }
          pure 0
        else refuse "enable" (n ++ ": not a shell builtin") 1

/-- Tells where the running function was called. -/
def caller (arguments : List String) : Act Nat := do
  let s ← get
  let frame? (i : Nat) : Option Frame := s.frames[i]?
  match arguments with
  | [] =>
    match frame? 0 with
    | none => pure 1
    | some f => do
      let above := (frame? 1).map Frame.source
      say 1 (toString f.line ++ " " ++ above.getD "NULL")
      pure 0
  | a :: _ =>
    match Text.natural? a with
    | none => do
      complain ("caller: " ++ a ++ ": invalid number")
      usage "caller"
    | some n =>
      match frame? n, frame? (n + 1) with
      | some f, some above => do
        say 1 (toString f.line ++ " " ++ above.name ++ " " ++ above.source)
        pure 0
      | _, _ => pure 1

/-- The bits of a mode in three letters. -/
def modeLetters (n : Nat) : String :=
  (if n / 4 % 2 = 1 then "r" else "") ++ (if n / 2 % 2 = 1 then "w" else "") ++ (if n % 2 = 1 then "x" else "")

/-- A mask in four octal digits. -/
def maskText (mask : Nat) : String :=
  String.ofList ['0', Char.ofNat (48 + mask / 64 % 8), Char.ofNat (48 + mask / 8 % 8), Char.ofNat (48 + mask % 8)]

/-- One clause of a symbolic mode applied to the bits that are allowed. -/
def allowedBy (allowed : Nat) (clause : List Char) : Option Nat :=
  let who := clause.takeWhile "ugoa".toList.contains
  let shifts := if who.isEmpty || who.contains 'a' then [6, 3, 0]
    else (if who.contains 'u' then [6] else []) ++ (if who.contains 'g' then [3] else []) ++
      (if who.contains 'o' then [0] else [])
  match clause.drop who.length with
  | op :: letters =>
    if !letters.all "rwxXst".toList.contains || !"=+-".toList.contains op then none
    else
      let bits := (if letters.contains 'r' then 4 else 0) + (if letters.contains 'w' then 2 else 0) +
        (if letters.contains 'x' then 1 else 0)
      some (shifts.foldl (fun n shift =>
        let own := n / Nat.pow 2 shift % 8
        let new := if op = '=' then bits else if op = '+' then own ||| bits else own - (own &&& bits)
        n - own * Nat.pow 2 shift + new * Nat.pow 2 shift) allowed)
  | [] => none

def umask (arguments : List String) : Act Nat := do
  withOptions "umask" (if (← get).isBash then "pS" else "S") arguments fun flags words => do
    let s ← get
    match words with
    | [] => do
      let allowed := 511 - s.mask
      if hasFlag flags 'S' then
        say 1 ("u=" ++ modeLetters (allowed / 64) ++ ",g=" ++ modeLetters (allowed / 8 % 8) ++ ",o=" ++
          modeLetters (allowed % 8))
      else say 1 ((if hasFlag flags 'p' then "umask " else "") ++ maskText s.mask)
      pure 0
    | w :: _ =>
      if (w.toList.head?).any Text.isAsciiDigit then
        if w.toList.all fun c => (Text.digitIn? 8 c).isSome then do
          set { s with mask := Text.numberOf 8 w.toList % 512 }
          pure 0
        else fault "umask" (w ++ ": octal number out of range") ("Illegal number: " ++ w) 1
      else
        let allowed := (Text.splitAt ',' w.toList).foldl (fun n clause => n.bind fun n => allowedBy n clause)
          (some (511 - s.mask))
        match allowed with
        | some n => do
          set { s with mask := 511 - n }
          if hasFlag flags 'S' then
            say 1 ("u=" ++ modeLetters (n / 64) ++ ",g=" ++ modeLetters (n / 8 % 8) ++ ",o=" ++ modeLetters (n % 8))
          pure 0
        | none =>
          let bad := String.ofList ((w.toList.dropWhile "ugoa".toList.contains).take 1)
          fault "umask" ("\x60" ++ bad ++ "': invalid symbolic mode operator") ("Illegal mode: " ++ w) 1

/-- The values of expressions; the status tells whether the last one is zero. -/
def calculateAll (arguments : List String) : Act Nat := do
  let arguments := match arguments with
    | "--" :: rest => rest
    | words => words
  if arguments.isEmpty then refuse "let" "expression expected" 1
  else
    let rec go (status : Nat) : List String → Act Nat
      | [] => pure status
      | a :: rest => do
        match ← calculate? "let" a.toList with
        | some n => go (if n = 0 then 1 else 0) rest
        | none => pure 1
    go 1 arguments

end LintRun.Shell
