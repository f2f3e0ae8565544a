import LintRun.Shell.Builtin.Basic

/-!
# Shell — Built-in commands: directories

* `changeDirectory`: goes to another working directory.
* `pushDirectory`, `popDirectory`, `showDirectories`: the directories that one may go back to.
-/

namespace LintRun.Shell

/-- Goes to a directory; the answer is what kept the shell from it. -/
def enter (target : String) : Act (Option Refusal) := do
  let s ← get
  match s.tree.locate .target (pathOf target) with
  | .ok (.present trail) =>
    match trail with
    | (_, .directory _) :: _ =>
      let tree := { s.tree with home := FileTree.namesOf trail }
      let put (name value : String) (bs : List (String × Variable)) : List (String × Variable) :=
        let old := (bs.lookup name).getD {}
        putVariable name { old with content := .text (some value), exported := true } bs
      set { s with tree, bindings := put "PWD" (directoryText tree) (put "OLDPWD" (directoryText s.tree) s.bindings) }
      pure none
    | _ => pure (some .notDirectory)
  | .ok _ => pure (some (if (System.kind? (absolutePath s.tree (pathOf target))) = some .folder then .accessDenied
      else .noEntry))
  | .error r => pure (some r)

/-- The directories of the search path for directories. -/
def directoryPlaces (s : State) (target : String) : List String :=
  let isPlain := target.startsWith "/" || target.startsWith "./" || target.startsWith "../" || target = "." ||
    target = ".."
  if isPlain then []
  else ((value? s "CDPATH").map fun t => (Text.splitAt ':' t.toList).map String.ofList).getD []

def changeDirectory (arguments : List String) : Act Nat := do
  withOptions "cd" (if (← get).isBash then "LPe@" else "LP") arguments fun _ words => do
    let s ← get
    let refuseTarget (target : String) (r : Refusal) : Act Nat :=
      match s.dialect with
      | .bash => refuse "cd" (target ++ ": " ++ r.text) 1
      | .posix => refuse "cd" ("can't cd to " ++ target) 2
    let go (target : String) (announce : Bool) : Act Nat := do
      let places := directoryPlaces s target
      let candidates := places.filter fun d =>
        isFolder s.tree (if d = "" then target else if d.endsWith "/" then d ++ target else d ++ "/" ++ target)
      match candidates with
      | d :: _ =>
        match ← enter (if d = "" then target else d ++ "/" ++ target) with
        | none => do
          if d ≠ "" then say 1 (directoryText (← get).tree)
          pure 0
        | some r => refuseTarget target r
      | [] =>
        if target = "" then pure 0
        else match ← enter target with
          | none => do
            if announce then say 1 (directoryText (← get).tree)
            pure 0
          | some r => refuseTarget target r
    match words with
    | [] =>
      match value? s "HOME" with
      | some home => go home false
      | none =>
        match s.dialect with
        | .bash => refuse "cd" "HOME not set" 1
        | .posix => pure 0
    | a :: more =>
      if s.isBash && !more.isEmpty then refuse "cd" "too many arguments" 1
      else if a = "-" then
        match value? s "OLDPWD" with
        | some old => go old true
        | none =>
          match s.dialect with
          | .bash => refuse "cd" "OLDPWD not set" 1
          | .posix => go (directoryText s.tree) true
      else go a false

/-- A directory as lists of directories show it. -/
def shownDirectory (s : State) (long : Bool) (path : String) : String :=
  match if long then none else value? s "HOME" with
  | some home =>
    if home ≠ "" && path = home then "~"
    else if home ≠ "" && path.startsWith (home ++ "/") then "~" ++ (path.drop home.length).toString
    else path
  | none => path

/-- The place that an argument names in a list of directories: from the left, or from the right. -/
def directoryIndex? (size : Nat) (a : String) : Option (Option Nat) :=
  match a.toList with
  | '+' :: digits =>
    (Text.natural? (String.ofList digits)).map fun n => if n < size then some n else none
  | '-' :: digits =>
    (Text.natural? (String.ofList digits)).map fun n => if n < size then some (size - 1 - n) else none
  | _ => none

def showDirectories (arguments : List String) : Act Nat := do
  let s ← get
  let all := directoryText s.tree :: s.directories
  let flags := (arguments.filter fun a => isOption a && (directoryIndex? 1 a).isNone).flatMap fun a => a.toList.drop 1
  match flags.find? fun c => !"clpv".toList.contains c with
  | some c => do
    complain ("dirs: " ++ String.ofList ['-', c] ++ ": invalid option")
    usage "dirs"
  | none =>
    let shown := all.map (shownDirectory s (flags.contains 'l'))
    if flags.contains 'c' then do
      set { s with directories := [] }
      pure 0
    else match arguments.findSome? (directoryIndex? all.length) with
      | some (some n) => do
        say 1 (shown.getD n "")
        pure 0
      | some none => do
        let a := (arguments.find? fun a => (directoryIndex? all.length a).isSome).getD ""
        refuse "dirs" ((a.drop 1).toString ++ ": directory stack index out of range") 1
      | none => do
        if flags.contains 'v' then
          shown.zipIdx.forM fun (d, i) => do
            let n := toString i
            say 1 (String.ofList (List.replicate (2 - n.length) ' ') ++ n ++ "  " ++ d)
        else if flags.contains 'p' then shown.forM (say 1)
        else say 1 (Text.joinWith " " shown)
        pure 0

/-- Goes to the first of some directories; the others are the ones to go back to. -/
def goTo (command : String) (stay : Bool) (all : List String) : Act Nat := do
  match all with
  | [] => pure 0
  | d :: rest => do
    let here := directoryText (← get).tree
    let refusal ← if stay || d = here then pure none else enter d
    match refusal with
    | some r => refuse command (d ++ ": " ++ r.text) 1
    | none => do
      modify fun s => { s with directories := rest }
      showDirectories []

def pushDirectory (arguments : List String) : Act Nat := do
  let s ← get
  let stay := arguments.head? = some "-n"
  let words := if stay then arguments.drop 1 else arguments
  let words := match words with
    | "--" :: rest => rest
    | ws => ws
  let here := directoryText s.tree
  let all := here :: s.directories
  match words with
  | [] =>
    match s.directories with
    | [] => refuse "pushd" "no other directory" 1
    | d :: rest => goTo "pushd" false (d :: here :: rest)
  | a :: _ =>
    match directoryIndex? all.length a with
    | some (some n) => goTo "pushd" false (all.drop n ++ all.take n)
    | some none =>
      if s.directories.isEmpty then refuse "pushd" "directory stack empty" 1
      else refuse "pushd" (a ++ ": directory stack index out of range") 1
    | none =>
      if isOption a then do
        complain ("pushd: " ++ a ++ ": invalid number")
        usage "pushd" *> pure 2
      else if stay then do
        set { s with directories := a :: s.directories }
        showDirectories []
      else match ← enter a with
        | some r => refuse "pushd" (a ++ ": " ++ r.text) 1
        | none => do
          modify fun t => { t with directories := all }
          showDirectories []

def popDirectory (arguments : List String) : Act Nat := do
  let s ← get
  let stay := arguments.head? = some "-n"
  let words := if stay then arguments.drop 1 else arguments
  let all := directoryText s.tree :: s.directories
  match words with
  | [] =>
    match s.directories with
    | [] => refuse "popd" "directory stack empty" 1
    | d :: rest =>
      if stay then do
        set { s with directories := rest }
        showDirectories []
      else goTo "popd" false (d :: rest)
  | a :: _ =>
    match directoryIndex? all.length a with
    | some (some 0) => goTo "popd" stay s.directories
    | some (some n) => do
      set { s with directories := (s.directories.take (n - 1)) ++ s.directories.drop n }
      showDirectories []
    | some none =>
      if s.directories.isEmpty then refuse "popd" "directory stack empty" 1
      else refuse "popd" (a ++ ": directory stack index out of range") 1
    | none => do
      complain ("popd: " ++ a ++ ": invalid argument")
      usage "popd"

end LintRun.Shell
