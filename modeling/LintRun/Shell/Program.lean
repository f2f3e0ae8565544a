import LintRun.Shell.Builtin.Options
import LintRun.Shell.Complaint
import LintRun.Shell.Condition
import LintRun.Shell.Reader.Script
import LintRun.Shell.Signal

/-!
# Shell — Programs

How the name of a command leads to a program, files that are run as programs, and shells that are called as programs.

* `find`: the program that a path leads to, or why it cannot be started.
* `search`: the program that a name leads to, as the search path says.
* `programPaths`: the paths of all programs of a name.
* `interpreter?`: the interpreter that a file asks for.
* `programEnvironment`: what a program gets to see.
* `toolState`, `shellState`: the state in which a program starts.
* `ShellCall.read`: what a shell is called with.
-/

namespace LintRun.Shell

/-! ### Search -/

/-- The program that a path leads to. -/
def find (t : FileTree) (path : String) : Except Refusal Program :=
  let p := pathOf path
  let q := absolutePath t p
  if path = "" then .error .noEntry
  else match t.node? p with
    | .ok (.file content executable) =>
      if path.endsWith "/" || path.endsWith "/." then .error .notDirectory
      else if executable then .ok (.script path content)
      else .error .accessDenied
    | .ok _ => .error .accessDenied
    | .error r =>
      match System.kind? q with
      | some (.file _ true) => if path.endsWith "/" then .error .notDirectory else .ok (.system q.name)
      | some _ => .error .accessDenied
      | none =>
        if System.folders.contains q.parent && FileTree.nameLimit ≤ q.name.utf8ByteSize then .error .nameTooLong
        else if (System.kind? q.parent).any fun k => k ≠ .folder then .error .notDirectory
        else .error r

/-- The directories of a search path; an empty one is the working directory. -/
def searchDirectories (path : String) : List String := (Text.splitAt ':' path.toList).map String.ofList

/-- The path of a name in a directory of the search path. -/
def inDirectory (directory name : String) : String :=
  if directory = "" then name else if directory.endsWith "/" then directory ++ name else directory ++ "/" ++ name

/-- The first program of a name in some directories. The refusal that counts is the first one that does not just
say that nothing is there. -/
def searchIn (t : FileTree) (name : String) (refusal : Option Refusal) : List String → Except Refusal Program
  | [] => .error (refusal.getD .noEntry)
  | d :: rest =>
    match find t (inDirectory d name) with
    | .ok p => .ok p
    | .error .noEntry | .error .notDirectory => searchIn t name refusal rest
    | .error r => searchIn t name (some (refusal.getD r)) rest

/-- The search path of a system in which none is set. -/
def usualPath : String := "/bin:/usr/bin"

/-- The program of a name: a name with a slash is a path, any other is searched for. -/
def search (t : FileTree) (path : Option String) (name : String) : Except Refusal Program :=
  if name.toList.contains '/' then find t name
  else searchIn t name none (searchDirectories (path.getD usualPath))

/-- The paths of all programs of a name. -/
def programPaths (s : State) (name : String) : List String :=
  let isProgram (path : String) : Bool := (find s.tree path).toOption.isSome
  if name.toList.contains '/' then [name].filter isProgram
  else ((searchDirectories (searchPath s)).map fun d => inDirectory d name).filter isProgram

/-! ### Files and shells -/

/-- The interpreter that the first line of a file names, and its argument. -/
def interpreter? (content : List UInt8) : Option (String × List String) :=
  match content with
  | 35 :: 33 :: rest =>
    let line := Encoding.decode .utf8 (rest.takeWhile (· ≠ 10))
    let isBlank (c : Char) : Bool := c = ' ' || c = '\t'
    let line := ((line.dropWhile isBlank).reverse.dropWhile isBlank).reverse
    let path := line.takeWhile fun c => !isBlank c
    let argument := (line.drop path.length).dropWhile isBlank
    if path.isEmpty then none
    else some (String.ofList path, if argument.isEmpty then [] else [String.ofList argument])
  | _ => none

/-- The text of a script; NUL bytes are passed over. -/
def scriptText (set : Charset) (content : List UInt8) : List Char :=
  Encoding.decode set (content.filter (· ≠ 0))

/-- Whether the first line of a file holds a NUL, so that it is no script. -/
def isBinary (content : List UInt8) : Bool := (content.takeWhile (· ≠ 10)).contains 0

/-- Why a program cannot be started although it is there: its interpreters, one after another, have to be
programs, too. -/
def refusal? (t : FileTree) : Nat → Program → Option Refusal
  | 0, _ => some .tooManyLinks
  | _ + 1, .system _ => none
  | fuel + 1, .script _ content =>
    match interpreter? content with
    | none => some .execFormat
    | some (path, _) =>
      match find t path with
      | .error r => some r
      | .ok inner => refusal? t fuel inner

/-! ### Environments -/

/-- The name under which a function is handed on. -/
def functionKey (name : String) : String := "BASH_FUNC_" ++ name ++ "%%"

/-- The functions that programs get to see. -/
def exportedFunctions (s : State) : Environment :=
  let own := s.functions.filter fun (_, f) => f.exported
  let sorted := own.mergeSort fun a b => Content.bucket a.1 % 512 ≤ Content.bucket b.1 % 512
  sorted.map fun (name, f) => (functionKey name, Layout.exported f.body)

/-- What a program of a path gets to see. -/
def programEnvironment (s : State) (path : String) : Environment :=
  match s.dialect with
  | .posix => exports s
  | .bash => ((exports s).filter fun (n, _) => n ≠ "_") ++ exportedFunctions s ++ [("_", path)]

/-- The function that an environment hands on, if the entry is one. -/
def importedFunction? (set : Charset) (entry : String × String) : Option (String × Function) :=
  let (key, text) := entry
  if key.startsWith "BASH_FUNC_" && key.endsWith "%%" && text.startsWith "() \x7b" then
    let name := ((key.drop 10).dropEnd 2).toString
    let place : Place := { rest := (name ++ " " ++ text).toList, manner := { dialect := .bash, charset := set } }
    match readLine.run place with
    | .ok ([.define _ own body], _) => if own = name then some (name, ⟨body, "environment", 0, true⟩) else none
    | _ => none
  else none

/-- The variables of the environment. -/
def givenVariables (d : Dialect) (set : Charset) (environment : Environment) : List (String × Variable) :=
  environment.filterMap fun (n, v) =>
    let kept : Bool := match d with
      | .posix => isName n.toList
      | .bash => (importedFunction? set (n, v)).isNone
    if kept && n ≠ "IFS" && n ≠ "OLDPWD" && n ≠ "OPTIND" then
      some (n, { content := .text (some (Encoding.recode set v)), exported := true })
    else none

/-- The variables that a shell starts with. -/
def startVariables (d : Dialect) (set : Charset) (environment : Environment) (t : FileTree) :
    List (String × Variable) :=
  let given := givenVariables d set environment
  let put (name value : String) (vs : List (String × Variable)) : List (String × Variable) :=
    putVariable name (.ofText value) vs
  let usual (name value : String) (vs : List (String × Variable)) : List (String × Variable) :=
    if (vs.lookup name).isSome then vs else put name value vs
  let exported (name value : String) (vs : List (String × Variable)) : List (String × Variable) :=
    putVariable name { content := .text (some value), exported := true } vs
  let vs := put "IFS" " \t\n" (exported "PWD" (directoryText t) given)
  match d with
  | .posix =>
    let vs := usual "PATH" "/usr/local/sbin:/usr/local/bin:/usr/sbin:/usr/bin:/sbin:/bin" vs
    put "OPTIND" "1" (usual "PPID" "4000" (usual "PS4" "+ " (usual "PS1" "# " (usual "PS2" "> " vs))))
  | .bash =>
    let level : Int := match (environment.get? "SHLVL").bind Condition.integer? with
      | some n => n
      | none => 0
    let fixed (name : String) (v : Variable) (vs : List (String × Variable)) : List (String × Variable) :=
      putVariable name { v with fixed := true } vs
    let vs := exported "SHLVL" (toString (max 0 (level + 1))) vs
    let vs := putVariable "OLDPWD" { exported := true } vs
    let vs := usual "PATH" "/usr/local/sbin:/usr/local/bin:/usr/sbin:/usr/bin:/sbin:/bin" vs
    let vs := usual "TERM" "dumb" (usual "SHELL" "/bin/bash" (usual "HOSTNAME" "localhost" vs))
    let vs := put "BASH" "/usr/bin/bash" (put "BASH_VERSION" "5.2.21(1)-release" vs)
    let vs := put "HOSTTYPE" "x86_64" (put "MACHTYPE" "x86_64-pc-linux-gnu" (put "OSTYPE" "linux-gnu" vs))
    let vs := put "OPTIND" "1" (put "OPTERR" "1" (usual "PS4" "+ " vs))
    let vs := fixed "PPID" { Variable.ofText "4000" with integer := true } vs
    let vs := fixed "UID" { Variable.ofText "0" with integer := true } vs
    let vs := fixed "EUID" { Variable.ofText "0" with integer := true } vs
    let vs := fixed "BASHOPTS" (.ofText (Text.joinWith ":" usualExtras)) vs
    let vs := putVariable "GROUPS" (.ofList ["0"]) vs
    fixed "BASH_VERSINFO" (.ofList ["5", "2", "21", "1", "release", "x86_64-pc-linux-gnu"]) vs

/-! ### States -/

/-- The state in which a program of the system starts; what it writes goes where its caller's output goes. -/
def toolState (s : State) (name : String) (environment : Environment) : State :=
  { dialect := .posix, charset := charsetOf environment.get?, name
    bindings := environment.map fun (n, v) => (n, { content := .text (some v), exported := true : Variable })
    descriptors := s.descriptors, sources := s.sources, regular := s.regular, written := s.written, level := s.level,
      room := s.room
    elapsed := s.elapsed, limit := s.limit, busy := s.busy, held := s.held, mask := s.mask, tree := s.tree }

/-- The state in which a shell starts. -/
def shellState (s : State) (d : Dialect) (name : String) (arguments : List String) (environment : Environment) :
    State :=
  let set := charsetOf environment.get?
  { toolState s name environment with
    dialect := d, charset := set, arguments := arguments.map (Encoding.recode set)
    options := if d = .bash then ["braceexpand", "hashall", "interactive-comments"] else []
    extras := if d = .bash then usualExtras else []
    bindings := startVariables d set environment s.tree
    functions := if d = .bash then environment.filterMap (importedFunction? set) else [] }

/-- A step as a program of its own: a signal ends the program alone, with a status that tells it; a shell
may say so, too. -/
def asProgram (act : Act Unit) (told : Bool := true) : Act Unit := do
  match ← outcome (isolated act) with
  | some (.killed n) => do
    if told && (← get).dialect = .posix then ((signalText n).toList).forM (say 2)
    setStatus (128 + n)
  | some flow => throw flow
  | none => pure ()

/-! ### Shells as programs -/

/-- The text that a shell reads: an argument, a file, or its input. -/
inductive ShellSource
  | argument (text : String)
  | file (path : String)
  | input
  deriving DecidableEq, Repr

/-- What a shell is called with. -/
structure ShellCall where
  options : List (String × Bool) := []
  extras : List (String × Bool) := []
  takesArgument : Bool := false
  takesInput : Bool := false
  version : Bool := false
  /-- Options that make no sense: a letter, or a name. -/
  unknown : Option String := none
  source : ShellSource := .input
  arguments : List String := []

namespace ShellCall

/-- The letters of one argument, and the arguments that are left. -/
def takeLetters (d : Dialect) (on : Bool) (c : ShellCall) : List Char → List String → ShellCall × List String
  | [], rest => (c, rest)
  | l :: ls, rest =>
    match l with
    | 'c' => takeLetters d on { c with takesArgument := true } ls rest
    | 's' => takeLetters d on { c with takesInput := true } ls rest
    | 'o' =>
      match rest with
      | name :: rest =>
        if (optionsOf d).contains name then
          takeLetters d on { c with options := c.options ++ [(name, on)] } ls rest
        else takeLetters d on { c with unknown := some name } ls rest
      | [] => takeLetters d on c ls rest
    | 'O' =>
      match d, rest with
      | .bash, name :: rest => takeLetters d on { c with extras := c.extras ++ [(name, on)] } ls rest
      | _, _ => takeLetters d on { c with unknown := some "O" } ls rest
    | _ =>
      match optionName? d l with
      | some name => takeLetters d on { c with options := c.options ++ [(name, on)] } ls rest
      | none =>
        let isKnown := d = .bash && "ilrDv".toList.contains l
        takeLetters d on (if isKnown then c else { c with unknown := some (String.singleton l) }) ls rest

/-- The options at the front of the arguments, at most so many, and what comes after them. -/
def readWithin (d : Dialect) : Nat → ShellCall → List String → ShellCall
  | 0, c, _ => c
  | _ + 1, c, [] => { c with source := if c.takesArgument then .argument "" else .input }
  | fuel + 1, c, a :: rest =>
    if a.startsWith "--" && a ≠ "--" && d = .bash then
      let takesValue := a = "--rcfile" || a = "--init-file"
      readWithin d fuel { c with version := c.version || a = "--version" } (if takesValue then rest.drop 1 else rest)
    else if (isOption a || (a.startsWith "+" && a ≠ "+")) && a ≠ "--" then
      let (c, rest) := takeLetters d (a.startsWith "-") c (a.toList.drop 1) rest
      readWithin d fuel c rest
    else
      match if a = "--" || a = "-" then rest else a :: rest with
      | [] => { c with source := if c.takesArgument then .argument "" else .input }
      | w :: more =>
        if c.takesArgument then { c with source := .argument w, arguments := more }
        else if c.takesInput then { c with source := .input, arguments := w :: more }
        else { c with source := .file w, arguments := more }

/-- What a shell is called with. -/
def read (d : Dialect) (arguments : List String) : ShellCall := readWithin d (arguments.length + 1) {} arguments

/-- The state with the options of a call. -/
def apply (c : ShellCall) (s : State) : State :=
  let turn (all : List String) (change : String × Bool) : List String :=
    let others := all.filter (· ≠ change.1)
    if change.2 then change.1 :: others else others
  { s with options := c.options.foldl turn s.options, extras := c.extras.foldl turn s.extras }

end ShellCall

/-- What a shell says of its version. -/
def versionLine : String := "GNU bash, version 5.2.21(1)-release (x86_64-pc-linux-gnu)"

end LintRun.Shell
