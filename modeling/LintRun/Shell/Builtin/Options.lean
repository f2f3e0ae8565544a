import LintRun.Shell.Builtin.Declare

/-!
# Shell — Built-in commands: options

* `setOptions`: options and arguments of the shell.
* `shopt`: the further options of one dialect.
-/

namespace LintRun.Shell

/-- The options of one dialect, as they are listed. -/
def longOptions : List String :=
  ["allexport", "braceexpand", "emacs", "errexit", "errtrace", "functrace", "hashall", "histexpand", "history",
    "ignoreeof", "interactive-comments", "keyword", "monitor", "noclobber", "noexec", "noglob", "nolog", "notify",
    "nounset", "onecmd", "physical", "pipefail", "posix", "privileged", "verbose", "vi", "xtrace"]

/-- The options of the other dialect, as they are listed. -/
def plainOptions : List String :=
  ["errexit", "noglob", "ignoreeof", "interactive", "monitor", "noexec", "stdin", "xtrace", "verbose", "vi", "emacs",
    "noclobber", "allexport", "notify", "nounset", "privileged", "nolog", "debug"]

def optionsOf : Dialect → List String
  | .bash => longOptions
  | .posix => plainOptions

/-- The further options of one dialect, as they are listed. -/
def extraOptions : List String :=
  ["autocd", "assoc_expand_once", "cdable_vars", "cdspell", "checkhash", "checkjobs", "checkwinsize", "cmdhist",
    "compat31", "compat32", "compat40", "compat41", "compat42", "compat43", "compat44", "complete_fullquote",
    "direxpand",
    "dirspell", "dotglob", "execfail", "expand_aliases", "extdebug", "extglob", "extquote", "failglob", "force_fignore",
    "globasciiranges", "globskipdots", "globstar", "gnu_errfmt", "histappend", "histreedit", "histverify",
    "hostcomplete", "huponexit", "inherit_errexit", "interactive_comments", "lastpipe", "lithist", "localvar_inherit",
    "localvar_unset", "login_shell", "mailwarn", "no_empty_cmd_completion", "nocaseglob", "nocasematch",
    "noexpand_translation", "nullglob", "patsub_replacement", "progcomp", "progcomp_alias", "promptvars",
    "restricted_shell", "shift_verbose", "sourcepath", "varredir_close", "xpg_echo"]

/-- The further options that are on in a new shell. -/
def usualExtras : List String :=
  ["checkwinsize", "cmdhist", "complete_fullquote", "extquote", "force_fignore", "globasciiranges", "globskipdots",
    "hostcomplete", "interactive_comments", "patsub_replacement", "progcomp", "promptvars", "sourcepath"]

/-- The long name of an option letter. -/
def optionName? (d : Dialect) (letter : Char) : Option String :=
  let known := match d with
    | .bash => "abefhkmnptuvxBCEHPT".toList
    | .posix => "efIimnsxvVECabu".toList
  if !known.contains letter then none
  else match d, letter with
    | .posix, 'I' => some "ignoreeof"
    | .posix, 'i' => some "interactive"
    | .posix, 's' => some "stdin"
    | .posix, 'V' => some "vi"
    | .posix, 'E' => some "emacs"
    | _, _ => (optionLetters.find? fun (_, c) => c = letter).map Prod.fst

/-- Turns an option on or off. -/
def switch (name : String) (on : Bool) : Act Unit :=
  modify fun s =>
    let others := s.options.filter (· ≠ name)
    { s with options := if on then name :: others else others }

/-- One line of a list of options, with the name in fifteen columns. -/
def optionLine (name : String) (on : Bool) : String :=
  name ++ String.ofList (List.replicate (15 - name.length) ' ') ++ "\t" ++ if on then "on" else "off"

/-- Shows the options, or the commands that set them. -/
def showOptions (asCommands : Bool) : Act Unit := do
  let s ← get
  if !s.isBash && !asCommands then say 1 "Current option settings"
  (optionsOf s.dialect).forM fun name => do
    let on := s.options.contains name
    if asCommands then say 1 ("set " ++ (if on then "-o " else "+o ") ++ name)
    else if s.isBash then say 1 (optionLine name on)
    else say 1 (name ++ String.ofList (List.replicate (16 - name.length) ' ') ++ if on then "on" else "off")

/-- Refuses an option. -/
def refuseSwitch (letter : Option Char) (sign : Char) (name : String) : Act Nat := do
  match (← get).dialect, letter with
  | .bash, some c => do
    complain ("set: " ++ String.ofList [sign, c] ++ ": invalid option")
    usage "set"
  | .bash, none => refuse "set" (name ++ ": invalid option name") 2
  | .posix, some c => abort ("set: Illegal option " ++ String.ofList [sign, c])
  | .posix, none => abort ("set: Illegal option " ++ String.ofList [sign] ++ "o " ++ name)

/-- The letters of one argument; the answer is what is left of the arguments, or the status of a refusal. -/
def setLetters (sign : Char) : List Char → List String → Act (Except Nat (List String))
  | [], rest => pure (.ok rest)
  | 'o' :: cs, rest => do
    match rest with
    | name :: rest => do
      if (optionsOf (← get).dialect).contains name then
        switch name (sign = '-')
        setLetters sign cs rest
      else pure (.error (← refuseSwitch none sign name))
    | [] => do
      showOptions (sign = '+')
      setLetters sign cs []
  | c :: cs, rest => do
    let s ← get
    match optionName? s.dialect c with
    | some name => do
      if name = "monitor" && sign = '-' && !s.isBash then complain "set: can't access tty; job control turned off"
      else switch name (sign = '-')
      setLetters sign cs rest
    | none => pure (.error (← refuseSwitch (some c) sign ""))

/-- Options up to the first other argument, which starts the new arguments of the shell. -/
def setWords : Nat → List String → Act Nat
  | 0, _ => pure 0
  | fuel + 1, words => do
    match words with
    | [] => pure 0
    | "--" :: rest => do
      modify fun s => { s with arguments := rest }
      pure 0
    | a :: rest =>
      if a = "-" then
        switch "xtrace" false
        switch "verbose" false
        if !rest.isEmpty then modify fun s => { s with arguments := rest }
        pure 0
      else if (a.startsWith "-" || a.startsWith "+") && a ≠ "+" then
        match ← setLetters (a.toList.headD '-') (a.toList.drop 1) rest with
        | .ok rest => setWords fuel rest
        | .error status => pure status
      else do
        modify fun s => { s with arguments := a :: rest }
        pure 0

def setOptions (arguments : List String) : Act Nat := do
  let s ← get
  if arguments.isEmpty then
    (knownVariables s).forM fun (name, v) => do
      if let some t := listedVariable s name v then say 1 t
    if s.isBash then (knownFunctions s).forM fun (name, f) => put 1 (functionText name f ++ "\n")
    pure 0
  else
    -- an option that makes no sense keeps the others from being set
    let bad := (arguments.takeWhile fun a => isOption a && a ≠ "--").findSome? fun a =>
      (a.toList.drop 1).find? fun c => c ≠ 'o' && (optionName? s.dialect c).isNone
    match bad with
    | some c => refuseSwitch (some c) '-' ""
    | none => setWords (arguments.length + 1) arguments

def shopt (arguments : List String) : Act Nat :=
  withOptions "shopt" "pqsuo" arguments fun flags words => do
    let s ← get
    let has := hasFlag flags
    let isLong := has 'o'
    let all := if isLong then longOptions else extraOptions
    let isOn (name : String) : Bool := if isLong then s.options.contains name else s.extras.contains name
    let line (name : String) : String :=
      if has 'p' then
        if isLong then "set " ++ (if isOn name then "-o " else "+o ") ++ name
        else "shopt " ++ (if isOn name then "-s " else "-u ") ++ name
      else optionLine name (isOn name)
    if has 's' && has 'u' then refuse "shopt" "cannot set and unset shell options simultaneously" 1
    else if words.isEmpty then do
      if !has 'q' then
        all.forM fun name => do
          if (!has 's' || isOn name) && (!has 'u' || !isOn name) then say 1 (line name)
      pure 0
    else
      forEach words fun name => do
        if !all.contains name then
          refuse "shopt" (name ++ if isLong then ": invalid option name" else ": invalid shell option name") 1
        else if has 's' || has 'u' then
          if isLong then switch name (has 's')
          else modify fun s =>
            let others := s.extras.filter (· ≠ name)
            { s with extras := if has 's' then name :: others else others }
          pure 0
        else do
          if !has 'q' then say 1 (line name)
          pure (if isOn name then 0 else 1)

end LintRun.Shell
