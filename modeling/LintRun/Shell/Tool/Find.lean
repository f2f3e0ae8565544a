import LintRun.Shell.Pattern
import LintRun.Shell.Regex
import LintRun.Shell.Tool.Listing
import LintRun.Shell.Tool.Start

/-!
# Shell — Programs of the system that look for files

* `Finding`: what is asked about a file, and what is done with it.
* `Finding.read`: reads it from arguments.
* `find`: goes through directories.
-/

namespace LintRun.Shell
namespace Tool

/-- How a number is compared: it is to be greater, less or the same. -/
structure Measured where
  order : Ordering
  number : Nat
  deriving Repr

def Measured.holds (m : Measured) (n : Nat) : Bool := Ord.compare n m.number == m.order

inductive Finding
  | always (b : Bool)
  | name (fold : Bool) (pattern : String)
  | path (fold : Bool) (pattern : String)
  | regex (fold : Bool) (text : String) (r : Regex)
  | linkTo (fold : Bool) (pattern : String)
  | kind (letters : List Char)
  | empty
  | size (m : Measured) (unit : Nat)
  | links (m : Measured)
  | mode (exact : Bool) (some : Bool) (bits : Nat)
  | executable
  | both (a b : Finding)
  | either (a b : Finding)
  | negated (a : Finding)
  | sequence (a b : Finding)
  | print (ending : String)
  | printFormatted (format : String)
  | describe
  /-- Runs a command for each file, or one for all of them; perhaps in its directory. -/
  | exec (words : List String) (batch : Nat) (each inFolder : Bool)
  | delete
  | prune
  | quit

namespace Finding

/-- Whether anything is done with a file. -/
def acts : Finding → Bool
  | .print _ | .printFormatted _ | .describe | .exec _ _ _ _ | .delete => true
  | .both a b | .either a b | .sequence a b => acts a || acts b
  | .negated a => acts a
  | _ => false

def deletes : Finding → Bool
  | .delete => true
  | .both a b | .either a b | .sequence a b => deletes a || deletes b
  | .negated a => deletes a
  | _ => false

/-- The options that hold for the whole search. -/
structure Scope where
  highest : Nat := 1000
  lowest : Nat := 0
  depthFirst : Bool := false
  batches : Nat := 0
  extended : Bool := false

abbrev Reading := StateT (List String × Scope) (Except String)

def takeWord : Reading (Option String) := do
  let (ws, x) ← get
  match ws with
  | [] => pure none
  | w :: rest => do
    set (rest, x)
    pure (some w)

def peekWord : Reading (Option String) := do pure (← get).1.head?

def argument (option : String) : Reading String := do
  match ← takeWord with
  | some w => pure w
  | none => throw ("missing argument to \x60" ++ option ++ "'")

def count (option : String) : Reading Nat := do
  let w ← argument option
  match Text.natural? w with
  | some n => pure n
  | none => throw ("Expected a positive decimal integer argument to " ++ option ++ ", but got '" ++ w ++ "'")

/-- A number with a sign that tells how it is compared. -/
def measured? (text : String) : Option Measured :=
  match text.toList with
  | '+' :: ds => (Text.natural? (String.ofList ds)).map fun n => ⟨.gt, n⟩
  | '-' :: ds => (Text.natural? (String.ofList ds)).map fun n => ⟨.lt, n⟩
  | ds => (Text.natural? (String.ofList ds)).map fun n => ⟨.eq, n⟩

/-- The words of a command up to its end; tells whether it is for all files at once. -/
def commandWords : Nat → List String → Option (List String × Bool × List String)
  | 0, _ => none
  | _ + 1, [] => none
  | _ + 1, ";" :: rest => some ([], false, rest)
  | _ + 1, "\x7b\x7d" :: "+" :: rest => some (["\x7b\x7d"], true, rest)
  | fuel + 1, w :: rest => (commandWords fuel rest).map fun (ws, batch, rest) => (w :: ws, batch, rest)

/-- The tests and actions that take no argument. -/
def plain : List (String × Finding) :=
  [("-empty", .empty), ("-executable", .executable), ("-print", .print "\n"), ("-print0", .print "\x00"),
   ("-ls", .describe), ("-prune", .prune), ("-quit", .quit), ("-false", .always false), ("-nouser", .always false),
   ("-nogroup", .always false)] ++
  ["-readable", "-writable", "-true", "-noleaf", "-mount", "-xdev", "-daystart", "-warn", "-nowarn", "-follow"].map
    fun w => (w, .always true)

def regexOf (extended fold : Bool) (text : String) : Except String Finding :=
  match Regex.read { extended, lenient := true } text.toList with
  | .ok r => .ok (.regex fold text r)
  | .error f => .error ("failed to compile regular expression '" ++ text ++ "': " ++ f.message)

def kindOf (option text : String) : Except String Finding :=
  let letters := text.toList.filter (· ≠ ',')
  match letters.find? fun c => !"bcdpflsD".toList.contains c with
  | some c => .error ("Unknown argument to " ++ option ++ ": " ++ String.singleton c)
  | none => .ok (.kind letters)

/-- The units that a size may be given in. -/
def sizeUnits : List (Char × Nat) :=
  [('c', 1), ('w', 2), ('b', 512), ('k', 1024), ('M', Nat.pow 1024 2), ('G', Nat.pow 1024 3)]

def sizeWanted (text : String) : Except String Finding :=
  let cs := text.toList
  let (digits, unit) := match cs.getLast?.bind (List.lookup · sizeUnits) with
    | some n => (cs.dropLast, n)
    | none => (cs, 512)
  match measured? (String.ofList digits) with
  | some m => .ok (.size m unit)
  | none => .error ("Invalid argument \x60" ++ text ++ "' to -size")

def linksWanted (text : String) : Except String Finding :=
  match measured? text with
  | some m => .ok (.links m)
  | none => .error ("non-numeric argument to -links: '" ++ text ++ "'")

def modeWanted (text : String) : Except String Finding :=
  let (exact, any, body) := match text.toList with
    | '-' :: rest => (false, false, String.ofList rest)
    | '/' :: rest => (false, true, String.ofList rest)
    | cs => (true, false, String.ofList cs)
  match newMode? false 0 body with
  | some bits => .ok (.mode exact any bits)
  | none => .error ("invalid mode '" ++ text ++ "'")

/-- Tests of owners and times: every file is root's and has just been made. -/
def ownedOrTimed (option text : String) : Except String Finding :=
  .ok (.always
    (if ["-newer", "-newermt", "-samefile", "-inum"].contains option then false
    else if ["-user", "-group"].contains option then text = "root"
    else if ["-uid", "-gid"].contains option then text = "0"
    else text.startsWith "-" || text = "0"))

/-- The tests and actions that take one argument. -/
def withArgument (extended : Bool) : List (String × (String → Except String Finding)) :=
  [("-name", fun t => .ok (.name false t)), ("-iname", fun t => .ok (.name true t)),
   ("-path", fun t => .ok (.path false t)), ("-wholename", fun t => .ok (.path false t)),
   ("-ipath", fun t => .ok (.path true t)), ("-iwholename", fun t => .ok (.path true t)),
   ("-lname", fun t => .ok (.linkTo false t)), ("-ilname", fun t => .ok (.linkTo true t)),
   ("-regex", regexOf extended false), ("-iregex", regexOf extended true),
   ("-type", kindOf "-type"), ("-xtype", kindOf "-xtype"), ("-size", sizeWanted), ("-links", linksWanted),
   ("-perm", modeWanted), ("-printf", fun t => .ok (.printFormatted t))] ++
  ["-newer", "-mtime", "-mmin", "-atime", "-amin", "-ctime", "-cmin", "-user", "-group", "-uid", "-gid", "-newermt",
   "-samefile", "-inum"].map fun w => (w, ownedOrTimed w)

def runsCommand (w : String) : Bool := ["-exec", "-execdir", "-ok", "-okdir"].contains w

/-- An action that runs a command. -/
def readCommand (w : String) : Reading Finding := do
  let (ws, x) ← get
  match commandWords (ws.length + 1) ws with
  | some (words, batch, rest) =>
    if words.isEmpty then throw ("missing argument to \x60" ++ w ++ "'")
    else do
      set (rest, { x with batches := x.batches + 1 })
      pure (.exec words x.batches (!batch) (w = "-execdir" || w = "-okdir"))
  | none => throw ("missing argument to \x60" ++ w ++ "'")

/-- Changes what holds for the whole search. -/
def adjust (change : Scope → Scope) : Reading Unit := modify fun (ws, x) => (ws, change x)

/-- An option of the whole search; none if the word is none. -/
def readOption (w : String) : Reading (Option Finding) := do
  if w = "-maxdepth" then
    let n ← count w
    adjust fun x => { x with highest := n }
    pure (some (.always true))
  else if w = "-mindepth" then
    let n ← count w
    adjust fun x => { x with lowest := n }
    pure (some (.always true))
  else if w = "-depth" || w = "-d" then
    adjust fun x => { x with depthFirst := true }
    pure (some (.always true))
  else if w = "-regextype" then
    let t ← argument w
    adjust fun x => { x with extended := ["posix-extended", "egrep", "posix-egrep"].contains t }
    pure (some (.always true))
  else if w = "-delete" then
    adjust fun x => { x with depthFirst := true }
    pure (some .delete)
  else pure none

/-- One test or action. -/
def primary (w : String) : Reading Finding := do
  match plain.lookup w with
  | some f => pure f
  | none =>
    match (withArgument (← get).2.extended).lookup w with
    | some make =>
      match make (← argument w) with
      | .ok f => pure f
      | .error text => throw text
    | none =>
      if runsCommand w then readCommand w
      else
        match ← readOption w with
        | some f => pure f
        | none =>
          if w.startsWith "-" then throw ("unknown predicate \x60" ++ w ++ "'")
          else throw ("paths must precede expression: \x60" ++ w ++ "'")

mutual

/-- Expressions of which only the value of the last one counts. -/
def readSequence : Nat → Reading Finding
  | 0 => throw "expression too long"
  | fuel + 1 => do
    let first ← readEither fuel
    match ← peekWord with
    | some "," => do
      let _ ← takeWord
      pure (.sequence first (← readSequence fuel))
    | _ => pure first
  termination_by structural fuel => fuel

def readEither : Nat → Reading Finding
  | 0 => throw "expression too long"
  | fuel + 1 => do
    let first ← readBoth fuel
    match ← peekWord with
    | some "-o" | some "-or" => do
      let _ ← takeWord
      pure (.either first (← readEither fuel))
    | _ => pure first
  termination_by structural fuel => fuel

def readBoth : Nat → Reading Finding
  | 0 => throw "expression too long"
  | fuel + 1 => do
    let first ← readNegated fuel
    match ← peekWord with
    | none | some ")" | some "," | some "-o" | some "-or" => pure first
    | some "-a" | some "-and" => do
      let _ ← takeWord
      pure (.both first (← readBoth fuel))
    | _ => pure (.both first (← readBoth fuel))
  termination_by structural fuel => fuel

def readNegated : Nat → Reading Finding
  | 0 => throw "expression too long"
  | fuel + 1 => do
    match ← takeWord with
    | none => throw "invalid expression; you have used a binary operator with nothing after it."
    | some "!" | some "-not" => do pure (.negated (← readNegated fuel))
    | some "(" => do
      let inner ← readSequence fuel
      match ← takeWord with
      | some ")" => pure inner
      | _ => throw "invalid expression; I was expecting to find a ')' somewhere but did not see one."
    | some ")" => throw "you have too many ')'"
    | some "-o" | some "-or" | some "-a" | some "-and" | some "," =>
      throw "invalid expression; you have used a binary operator with nothing before it."
    | some w => primary w
  termination_by structural fuel => fuel

end

/-- The expression that arguments make up, with what holds for the whole search. -/
def read (words : List String) : Except String (Finding × Scope) := do
  if words.isEmpty then .ok (.print "\n", {})
  else
    let (f, rest, x) ← (readSequence (4 * words.length + 8)).run (words, {})
    match rest with
    | [] => .ok (if acts f then f else .both f (.print "\n"), x)
    | _ => .error "you have too many ')'"

/-! ### Searching -/

/-- A file that has been found. -/
structure Found where
  path : String
  /-- The path that the search started at. -/
  start : String
  depth : Nat
  node : Node

/-- What is kept while directories are gone through. -/
structure Progress where
  pruned : Bool := false
  quit : Bool := false
  failed : Bool := false
  /-- The files for each command that is run for all of them. -/
  batches : List (Nat × List String) := []

abbrev Walk := StateT Progress Act

def matchesPattern (fold : Bool) (pattern text : String) : Bool :=
  Pattern.accepts fold (Pattern.ofGlyphs false (pattern.toList.map fun c => ⟨c, false⟩)) text.toList

/-- What a letter of a format stands for. -/
def lettered (quote : String → String) (f : Found) (c : Char) : String :=
  match c with
  | 'p' => f.path
  | 'f' => lastPart f.path
  | 'h' =>
    let cs := f.path.toList
    let front := (cs.reverse.dropWhile (· ≠ '/')).drop 1
    if cs.contains '/' then String.ofList front.reverse else "."
  | 'P' => if f.depth = 0 then "" else ((f.path.drop f.start.length).dropWhile (· = '/')).toString
  | 'H' => f.start
  | 'd' => toString f.depth
  | 's' => toString (sizeOf f.node)
  | 'y' => match f.node with
    | .file _ _ => "f"
    | .link _ => "l"
    | .directory _ => "d"
  | 'm' => String.ofList (Nat.toDigits 8 (modeOf f.node))
  | 'M' => String.ofList [kindLetter f.node] ++ modeText (modeOf f.node)
  | 'u' | 'g' => "root"
  | 'U' | 'G' => "0"
  | 'n' => toString (linksOf f.node)
  | 'k' => toString (blocksOf f.node)
  | 'b' => toString (2 * blocksOf f.node)
  | 'l' => match f.node with
    | .link t => t
    | _ => ""
  | c => described quote f.path f.node c

/-- The words of a command with the path of a file. -/
def withPath (path : String) (words : List String) : List String :=
  words.map fun w => String.ofList (replaced "\x7b\x7d".toList path.toList (w.length + 1) w.toList)

/-- Runs a command; tells whether it went well. -/
def runCommand (e : Engine) (words : List String) : Act Bool := do
  let s ← get
  match ← run e (surroundings s) ((surroundings s).get? "PATH") (words.headD "") (words.drop 1) with
  | .ok n => pure (n = 0)
  | .error r => do
    remark (quotedFor s (words.headD "") ++ ": " ++ r.text)
    pure false

/-- A step in the directory of a file. -/
def inFolderOf (path : String) (act : Act Bool) : Act Bool := do
  let t := (← get).tree
  let folder := (absolutePath t (pathOf path)).parent
  modify fun s => { s with tree := { s.tree with home := folder.parts } }
  let b ← act
  modify fun s => { s with tree := { s.tree with home := t.home } }
  pure b

/-- Whether an expression holds for a file, with all that is done on the way. Nothing follows the end of the search. -/
def judge (e : Engine) (f : Found) : Finding → Walk Bool
  | .always b => pure b
  | .name fold p => pure (matchesPattern fold p (lastPart f.path))
  | .path fold p => pure (matchesPattern fold p f.path)
  | .regex fold _ r =>
    let cs := f.path.toList.toArray
    pure ((Regex.ends { extended := true, fold } cs r 0 []).contains cs.size)
  | .linkTo fold p => pure (match f.node with
    | .link t => matchesPattern fold p t
    | _ => false)
  | .kind letters => pure (letters.contains (match f.node with
    | .file _ _ => 'f'
    | .link _ => 'l'
    | .directory _ => 'd'))
  | .empty => pure (match f.node with
    | .file content _ => content.isEmpty
    | .directory es => es.isEmpty
    | .link _ => false)
  | .size m unit => pure (m.holds ((sizeOf f.node + unit - 1) / unit))
  | .links m => pure (m.holds (linksOf f.node))
  | .mode exact any bits =>
    let own := modeOf f.node
    pure (if exact then own = bits else if any then bits = 0 || own &&& bits ≠ 0 else own &&& bits = bits)
  | .executable => pure (match f.node with
    | .file _ x => x
    | _ => true)
  | .both a b => do if (← judge e f a) && !(← get).quit then judge e f b else pure false
  | .either a b => do if (← judge e f a) || (← get).quit then pure true else judge e f b
  | .negated a => do pure !(← judge e f a)
  | .sequence a b => do
    let _ ← judge e f a
    if (← get).quit then pure true else judge e f b
  | .print ending => do
    put 1 (f.path ++ ending)
    pure true
  | .printFormatted format => do
    let quote := quotedName (← getThe State)
    put 1 (String.ofList (filledFormat true (lettered quote f) (format.length + 1) format.toList))
    pure true
  | .describe => do
    let look (c : Char) : String := described (fun t => t) f.path f.node c
    let time := String.ofList (Clock.format Clock.start "%b %e %H:%M".toList)
    say 1 (Text.padLeft 9 "1" ++ " " ++ Text.padLeft 6 (toString (blocksOf f.node)) ++ " " ++ look 'A' ++ "  " ++
      Text.padLeft 2 (look 'h') ++
      " root     root     " ++ Text.padLeft 8 (look 's') ++ " " ++ time ++ " " ++ f.path)
    pure true
  | .exec words n each inFolder => do
    if (← get).quit then pure false
    else if each then
      if inFolder then inFolderOf f.path (runCommand e (withPath ("./" ++ lastPart f.path) words))
      else runCommand e (withPath f.path words)
    else do
      modify fun p =>
        let own := (p.batches.lookup n).getD []
        { p with batches := (n, own ++ [f.path]) :: p.batches.filter (·.1 ≠ n) }
      pure true
  | .delete => do
    if f.path = "." then pure true
    else do
      let t := (← getThe State).tree
      match entryOf t false f.path, entryNames? t f.path with
      | .ok (.directory (_ :: _)), _ => do
        remark ("cannot delete " ++ quotedFor (← getThe State) f.path ++ ": Directory not empty")
        modify fun p => { p with failed := true }
        pure false
      | .ok _, some names => do
        (setTree (t.remove names) : Act Unit)
        pure true
      | _, _ => pure false
  | .prune => do
    modify fun p => { p with pruned := true }
    pure true
  | .quit => do
    modify fun p => { p with quit := true }
    pure true

/-- Goes through a file and what is in it. -/
def visit (e : Engine) (x : Scope) (follow : Bool) (expr : Finding) : Nat → Found → Walk Unit
  | 0, _ => pure ()
  | fuel + 1, f => do
    if (← get).quit then pure ()
    else do
      let look : Walk Unit := do
        if x.lowest ≤ f.depth && !(← get).quit then
          let _ ← judge e f expr
      let below : Walk Unit := do
        if f.depth < x.highest then
          let t := (← getThe State).tree
          let entries := match entryOf t (follow || f.depth = 0) f.path with
            | .ok n => if f.node.isDirectory then n.entries else []
            | .error _ => []
          entries.forM fun (entry, child) => do
            let path := inside f.path entry
            let node := if follow then (entryOf t true path).toOption.getD child else child
            visit e x follow expr fuel { f with path, depth := f.depth + 1, node }
      if x.depthFirst then
        below
        look
      else
        modify fun p => { p with pruned := false }
        look
        if !(← get).pruned then below

/-- The commands that are run for all files at once, with their numbers. -/
def batched : Finding → List (Nat × List String)
  | .exec words n false _ => [(n, words)]
  | .both a b | .either a b | .sequence a b => batched a ++ batched b
  | .negated a => batched a
  | _ => []

end Finding

open Finding in
def find : Starting := fun e arguments => do
  let options := arguments.takeWhile fun a => a = "-H" || a = "-L" || a = "-P"
  let follow := options.getLast? = some "-L" || arguments.contains "-follow"
  let rest := arguments.drop options.length
  let isExpression (w : String) : Bool := (w.startsWith "-" && w ≠ "-") || w = "(" || w = ")" || w = "!" || w = ","
  let starts := rest.takeWhile fun w => !isExpression w
  let words := rest.drop starts.length
  match Finding.read words with
  | .error text => fail text
  | .ok (expr, x) => do
    let search : Walk Unit := do
      (if starts.isEmpty then ["."] else starts).forM fun path => do
        let t := (← getThe State).tree
        match entryOf t follow path with
        | .error r =>
          match entryOf t false path with
          | .ok n => visit e x follow expr 1000 { path, start := path, depth := 0, node := n }
          | .error _ => do
            remark (quotedFor (← getThe State) path ++ ": " ++ r.text)
            modify fun p => { p with failed := true }
        | .ok node => visit e x follow expr 1000 { path, start := path, depth := 0, node }
      for (n, words) in batched expr do
        if let some files := (← get).batches.lookup n then
          let all := words.flatMap fun w => if w = "\x7b\x7d" then files else [w]
          if !(← runCommand e all) then modify fun p => { p with failed := true }
    let ((), p) ← search.run {}
    pure (if p.failed then 1 else 0)

end Tool
end LintRun.Shell
