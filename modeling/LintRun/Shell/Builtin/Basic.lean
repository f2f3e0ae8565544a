import LintRun.Shell.Assign

/-!
# Shell — Built-in commands: common ground

How built-in commands read their options and refuse what makes no sense.

* `refuse`, `fault`: a command complains and gives a status, or ends the shell.
* `options`: the options at the front of the arguments.
-/

namespace LintRun.Shell

/-- The commands whose faults end a plain shell. -/
def specialNames : List String :=
  [".", ":", "break", "continue", "eval", "exec", "exit", "export", "local", "readonly", "return", "set", "shift",
    "times", "trap", "unset"]

/-- A built-in command complains with its own name in front. -/
def refuse (name text : String) (status : Nat) : Act Nat := do
  complain (name ++ ": " ++ text)
  pure status

/-- A fault in the arguments of a command. A special command of a plain shell ends it. -/
def fault (name bash posix : String) (status : Nat) : Act Nat := do
  match (← get).dialect with
  | .bash => refuse name bash status
  | .posix => if specialNames.contains name then abort (name ++ ": " ++ posix) else refuse name posix 2

/-- How the commands are called. -/
def synopses : List (String × String) :=
  [(".", ". filename [arguments]"), ("source", "source filename [arguments]"),
    ("alias", "alias [-p] [name[=value] ... ]"),
    ("builtin", "builtin [shell-builtin [arg ...]]"), ("caller", "caller [expr]"),
    ("cd", "cd [-L|[-P [-e]] [-@]] [dir]"), ("command", "command [-pVv] command [arg ...]"),
    ("declare", "declare [-aAfFgiIlnrtux] [name[=value] ...] or declare -p [-aAfFilnrtux] [name ...]"),
    ("typeset", "typeset [-aAfFgiIlnrtux] name[=value] ... or typeset -p [-aAfFilnrtux] [name ...]"),
    ("local", "local [option] name[=value] ..."), ("dirs", "dirs [-clpv] [+N] [-N]"),
    ("disown", "disown [-h] [-ar] [jobspec ... | pid ...]"), ("enable", "enable [-a] [-dnps] [-f filename] [name ...]"),
    ("eval", "eval [arg ...]"), ("exec", "exec [-cl] [-a name] [command [argument ...]] [redirection ...]"),
    ("export", "export [-fn] [name[=value] ...] or export -p"), ("getopts", "getopts optstring name [arg ...]"),
    ("hash", "hash [-lr] [-p pathname] [-dt] [name ...]"),
    ("jobs", "jobs [-lnprs] [jobspec ...] or jobs -x command [args]"),
    ("kill", "kill [-s sigspec | -n signum | -sigspec] pid | jobspec ... or kill -l [sigspec]"),
    ("let", "let arg [arg ...]"),
    ("mapfile", "mapfile [-d delim] [-n count] [-O origin] [-s count] [-t] [-u fd] [-C callback] [-c quantum] [array]"),
    ("readarray",
      "readarray [-d delim] [-n count] [-O origin] [-s count] [-t] [-u fd] [-C callback] [-c quantum] [array]"),
    ("popd", "popd [-n] [+N | -N]"), ("printf", "printf [-v var] format [arguments]"),
    ("pushd", "pushd [-n] [+N | -N | dir]"), ("pwd", "pwd [-LP]"),
    ("read",
      "read [-ers] [-a array] [-d delim] [-i text] [-n nchars] [-N nchars] [-p prompt] " ++
        "[-t timeout] [-u fd] [name ...]"),
    ("readonly", "readonly [-aAf] [name[=value] ...] or readonly -p"), ("return", "return [n]"), ("exit", "exit [n]"),
    ("set", "set [-abefhkmnptuvxBCEHPT] [-o option-name] [--] [-] [arg ...]"), ("shift", "shift [n]"),
    ("shopt", "shopt [-pqsu] [-o] [optname ...]"), ("times", "times"),
    ("trap", "trap [-lp] [[arg] signal_spec ...]"), ("type", "type [-afptP] name [name ...]"),
    ("ulimit", "ulimit [-SHabcdefiklmnpqrstuvxPRT] [limit]"), ("umask", "umask [-p] [-S] [mode]"),
    ("unalias", "unalias [-a] name [name ...]"), ("unset", "unset [-f] [-v] [-n] [name ...]"),
    ("wait", "wait [-fn] [-p var] [id ...]"), ("break", "break [n]"), ("continue", "continue [n]")]

/-- Tells how a command is called. -/
def usage (name : String) : Act Nat := do
  say 2 (name ++ ": usage: " ++ (synopses.lookup name).getD name)
  pure 2

/-- An option as it was given; a plus sign in the place of the dash takes it back. -/
structure Flag where
  letter : Char
  value : String := ""
  plus : Bool := false
  deriving DecidableEq, Repr

/-- Whether a list of options holds a letter. -/
def hasFlag (flags : List Flag) (letter : Char) : Bool := flags.any fun f => f.letter = letter && !f.plus

/-- The value that came with the last option of a letter. -/
def flagValue? (flags : List Flag) (letter : Char) : Option String :=
  ((flags.reverse.find? fun f => f.letter = letter).map Flag.value)

def isOption (a : String) : Bool := a.startsWith "-" && a ≠ "-"

/-- Why options make no sense: a letter is unknown, or its value is missing. -/
inductive OptionTrouble
  | unknown (plus : Bool) (letter : Char)
  | missing (letter : Char)

/-- The letters of one argument; `spec` holds the known letters, with a colon after those that take a value. -/
def takeLetters (spec : List Char) (plus : Bool) (rest : List String) :
    List Char → Except OptionTrouble (List Flag × List String)
  | [] => .ok ([], rest)
  | c :: cs =>
    let after := (spec.dropWhile (· ≠ c)).drop 1
    if c = ':' || !spec.contains c then .error (.unknown plus c)
    else if after.head? = some ':' then
      match cs, rest with
      | _ :: _, _ => .ok ([{ letter := c, value := String.ofList cs, plus }], rest)
      | [], value :: rest => .ok ([{ letter := c, value, plus }], rest)
      | [], [] => .error (.missing c)
    else
      (takeLetters spec plus rest cs).map fun (flags, rest) => ({ letter := c, plus } :: flags, rest)

/-- The options at the front of the arguments, at most so many, and the arguments after them. -/
def takeFlags (spec : List Char) (plusToo : Bool) : Nat → List String → Except OptionTrouble (List Flag × List String)
  | 0, words => .ok ([], words)
  | _ + 1, [] => .ok ([], [])
  | fuel + 1, a :: rest =>
    if a = "--" then .ok ([], rest)
    else
      let plus := plusToo && a.startsWith "+" && a ≠ "+"
      if isOption a || plus then do
        let (flags, rest) ← takeLetters spec plus rest (a.toList.drop 1)
        let (more, rest) ← takeFlags spec plusToo fuel rest
        .ok (flags ++ more, rest)
      else .ok ([], a :: rest)

/-- The options of a command; if they make no sense, that is said, and there are none. -/
def optionsWith (plusToo : Bool) (name spec : String) (arguments : List String) :
    Act (Option (List Flag × List String)) := do
  match takeFlags spec.toList plusToo (arguments.length + 1) arguments with
  | .ok r => pure (some r)
  | .error trouble => do
    match (← get).dialect with
    | .bash =>
      let text := match trouble with
        | .unknown plus c => (if plus then "+" else "-") ++ String.singleton c ++ ": invalid option"
        | .missing c => "-" ++ String.singleton c ++ ": option requires an argument"
      complain (name ++ ": " ++ text)
      let _ ← usage name
      pure none
    | .posix =>
      let text := match trouble with
        | .unknown _ c => "Illegal option -" ++ String.singleton c
        | .missing c => "No arg for -" ++ String.singleton c ++ " option"
      let _ ← fault name text text 2
      pure none

def options (name spec : String) (arguments : List String) : Act (Option (List Flag × List String)) :=
  optionsWith false name spec arguments

/-- A command with options. -/
def withOptions (name spec : String) (arguments : List String) (act : List Flag → List String → Act Nat) : Act Nat := do
  match ← options name spec arguments with
  | some (flags, words) => act flags words
  | none => pure 2

/-- Goes through words; the last status that is not zero counts. -/
def forEach (words : List String) (act : String → Act Nat) : Act Nat :=
  words.foldlM (fun status w => do
    let r ← act w
    pure (if r = 0 then status else r)) 0

/-- The integer that a text is, with blanks around it. -/
def plainInteger? (text : String) : Option Int :=
  let (negative, digits) := Text.takeSign (Text.trimPlain text.toList)
  if !digits.isEmpty && digits.all Text.isAsciiDigit then
    let n : Int := Text.numberOf 10 digits
    some (if negative then -n else n)
  else none

end LintRun.Shell
