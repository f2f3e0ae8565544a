import LintRun.Shell.Redirection
import LintRun.Shell.Tool.Basic

/-!
# Shell — Programs of the system that change directories

* `entryOf`: what a path leads to, in the tree or in the system.
* `makeDirectories`, `removeDirectories`, `remove`, `touch`, `truncate`: files and directories come and go.
* `copy`, `move`, `link`, `install`: files and directories under other names.
* `changeMode`: which files can be run.
-/

namespace LintRun.Shell
namespace Tool

/-! ### Entries -/

/-- What a path leads to, by itself or through links. -/
def entryOf (t : FileTree) (follow : Bool) (text : String) : Except Refusal Node :=
  if text = "" then .error .noEntry
  else match t.locate (if follow then .target else .entry) ⟨(pathOf text).root, Path.pieces text.toList⟩ with
    | .ok (.present ((_, node) :: _)) => .ok node
    | other =>
      match System.kind? (pathOf text) with
      | some .folder => .ok (.directory [])
      | some (.file _ executable) => .ok (.file [] executable)
      | some .device => .ok (.file [] false)
      | none =>
        match other with
        | .error r => .error r
        | _ => .error .noEntry

/-- Whether a path leads to a directory, of the tree or of the system. -/
def leadsToFolder (t : FileTree) (text : String) : Bool :=
  match entryOf t true text with
  | .ok n => n.isDirectory
  | _ => false

/-- The names that lead to an entry from the root. -/
def entryNames? (t : FileTree) (text : String) : Option (List String) :=
  match t.locate .entry (pathOf text) with
  | .ok (.present trail) => some (FileTree.namesOf trail)
  | _ => none

/-- The last part of a path. -/
def lastPart (text : String) : String :=
  let cs := (text.toList.reverse.dropWhile (· = '/')).reverse
  if cs.isEmpty then (if text = "" then "" else "/") else String.ofList (cs.reverse.takeWhile (· ≠ '/')).reverse

/-- A name in a directory. -/
def inside (directory name : String) : String :=
  if directory.endsWith "/" then directory ++ name else directory ++ "/" ++ name

def setTree (t : FileTree) : Act Unit := modify fun s => { s with tree := t }

/-- A word between quotes as messages show file names. -/
def named (text : String) : Act String := do pure (quotedName (← get) text)

/-- A word between the quotes of messages. -/
def quoted (text : String) : Act String := do pure (quotedFor (← get) text)

/-- Does something for each of some words; the answer is the worst status. -/
def forEach (words : List String) (act : String → Act Nat) : Act Nat :=
  words.foldlM (fun status w => do pure (max status (← act w))) 0

/-! ### Directories -/

def makeDirectories : Plain :=
  withChoices ["p/parents", "v/verbose", "m/mode=", "Z"] fun chosen words => do
    if words.isEmpty then misuse "missing operand"
    else
      let make (path : String) : Act (Option Refusal) := do
        let s ← get
        if path = "" then pure (some .noEntry)
        else match s.tree.makeDirectory (pathOf path) with
          | .ok t => do
            setTree t
            if has chosen "v" then say 1 ("mkdir: created directory " ++ (← quoted path))
            pure none
          | .error r => pure (some (if (System.kind? (pathOf path)).isSome then .alreadyExists else r))
      let refuse (path : String) (r : Refusal) : Act Nat := do
        fail ("cannot create directory " ++ (← quoted path) ++ ": " ++ r.text)
      forEach words fun path => do
        if has chosen "p" then do
          let p := pathOf path
          let fronts := (List.range p.parts.length).map fun i => { p with parts := p.parts.take (i + 1) : Path }
          let mut fault := none
          for f in fronts do
            if fault.isNone && !leadsToFolder (← get).tree f.text then
              if let some r ← make f.text then fault := some (f.text, r)
          match fault with
          | some (front, r) =>
            if r = .alreadyExists && front ≠ p.text then refuse front .notDirectory else refuse path r
          | none => if path = "" then refuse path .noEntry else pure 0
        else match ← make path with
          | some r => refuse path r
          | none => pure 0

def removeDirectories : Plain :=
  withChoices ["p/parents", "v/verbose", "/ignore-fail-on-non-empty"] fun chosen words => do
    if words.isEmpty then misuse "missing operand"
    else
      let removeOne (path : String) : Act Nat := do
        let t := (← get).tree
        if has chosen "v" then say 1 ("rmdir: removing directory, " ++ (← quoted path))
        let refuse (text : String) : Act Nat := do fail ("failed to remove " ++ (← quoted path) ++ ": " ++ text)
        match entryOf t false path, entryNames? t path with
        | .error r, _ => refuse r.text
        | .ok (.directory []), some names => do
          setTree (t.remove names)
          pure 0
        | .ok (.directory _), _ =>
          if has chosen "ignore-fail-on-non-empty" then pure 0 else refuse "Directory not empty"
        | .ok _, _ => refuse "Not a directory"
      forEach words fun path => do
        if has chosen "p" then
          let p := pathOf path
          let fronts := (List.range p.parts.length).map fun i =>
            { p with parts := p.parts.take (p.parts.length - i) : Path }
          fronts.foldlM (fun status f => do if status ≠ 0 then pure status else removeOne f.text) 0
        else removeOne path

/-! ### Removal -/

/-- Whether the input says yes to a question. -/
def confirmed (question : String) : Act Bool := do
  put 2 question
  let bytes := inputOf (← get) 0
  let line := bytes.takeWhile (· ≠ 10)
  leaveInput 0 (bytes.drop (line.length + 1))
  pure (line.head?.any fun b => b = 121 || b = 89)

/-- The paths below an entry, those further down first. -/
def pathsBelow : Nat → String → Node → List (String × Bool)
  | 0, _, _ => []
  | depth + 1, path, node =>
    (node.entries.flatMap fun (name, child) => pathsBelow depth (inside path name) child) ++ [(path, node.isDirectory)]

def remove : Plain :=
  withChoices ["f/force", "i", "I", "r/recursive", "R", "d/dir", "v/verbose", "/interactive=?", "/one-file-system",
    "/no-preserve-root", "/preserve-root=?"] fun chosen words => do
    let recursive := has chosen "r" || has chosen "R"
    let force := lastOf? chosen ["f", "i"] = some "f"
    if words.isEmpty then if force then pure 0 else misuse "missing operand"
    else forEach words fun path => do
      let t := (← get).tree
      let refuse (text : String) : Act Nat := do fail ("cannot remove " ++ (← named path) ++ ": " ++ text)
      match entryOf t false path with
      | .error r => if force && (r = .noEntry || r = .notDirectory) then pure 0 else refuse r.text
      | .ok node =>
        let last := lastPart path
        let dotted := last = "." || last = ".."
        match node, entryNames? t path with
        | .directory es, names =>
          if !recursive && !(has chosen "d" && es.isEmpty) then
            refuse (if has chosen "d" then "Directory not empty" else "Is a directory")
          else if dotted then
            fail ("refusing to remove '.' or '..' directory: skipping " ++ (← named path))
          else
            match names with
            | some names => do
              if has chosen "v" then
                (pathsBelow 1000 path node).forM fun (p, isDirectory) => do
                  say 1 ((if isDirectory then "removed directory " else "removed ") ++ (← named p))
              setTree (t.remove names)
              pure 0
            | none => refuse "Device or resource busy"
        | .file content _, some names => do
          let go ← if has chosen "i" && !force then
              confirmed ("rm: remove regular " ++ (if content.isEmpty then "empty " else "") ++ "file " ++
                (← named path) ++ "? ")
            else pure true
          if go then
            setTree (t.remove names)
            if has chosen "v" then say 1 ("removed " ++ (← named path))
          pure 0
        | .link _, some names => do
          setTree (t.remove names)
          if has chosen "v" then say 1 ("removed " ++ (← named path))
          pure 0
        | _, none => refuse "Operation not permitted"

/-! ### Files -/

def touch : Plain :=
  withChoices ["a", "c/no-create", "d/date=", "f", "h/no-dereference", "m", "r/reference=", "t=", "/time="]
    fun chosen words => do
      if words.isEmpty then misuse "missing file operand"
      else forEach words fun path => do
        let t := (← get).tree
        let refuse (r : Refusal) : Act Nat := do fail ("cannot touch " ++ (← named path) ++ ": " ++ r.text)
        match entryOf t true path with
        | .ok _ => pure 0
        | .error .noEntry =>
          if has chosen "c" then pure 0
          else match ← openOutput false false path with
            | .ok _ => pure 0
            | .error r => refuse r
        | .error r => refuse r

/-- A size that may be seen from the old one. -/
def newSize? (text : String) (old : Nat) : Option Nat :=
  match text.toList with
  | '+' :: _ => (sized? (text.drop 1).toString).map (old + ·)
  | '-' :: _ => (sized? (text.drop 1).toString).map (old - ·)
  | '<' :: _ => (sized? (text.drop 1).toString).map (min old ·)
  | '>' :: _ => (sized? (text.drop 1).toString).map (max old ·)
  | _ => sized? text

def truncate : Plain :=
  withChoices ["c/no-create", "o/io-blocks", "r/reference=", "s/size="] fun chosen words => do
    match value? chosen "s" with
    | none => misuse ("you must specify either " ++ (← quoted "--size") ++ " or " ++ (← quoted "--reference"))
    | some size =>
      if (newSize? size 0).isNone then fail ("Invalid number: " ++ (← quoted size))
      else if words.isEmpty then misuse "missing file operand"
      else forEach words fun path => do
        let old ← match ← readFile path with
          | .ok bytes => pure (some bytes)
          | .error _ => pure none
        if old.isNone && has chosen "c" then pure 0
        else match ← openOutput false false path with
          | .ok stream => do
            let bytes := old.getD []
            let n := (newSize? size bytes.length).getD 0
            writeTo stream ((bytes ++ List.replicate (n - bytes.length) 0).take n)
            pure 0
          | .error r => fail ("cannot open " ++ (← quoted path) ++ " for writing: " ++ r.text)

/-! ### Other names -/

/-- Where a file goes: to a name, or into a directory. -/
structure Goal where
  sources : List String
  target : String
  isFolder : Bool

/-- What the words of a program that gives other names say, or what is wrong with them. -/
def goalOf (chosen : List Choice) (words : List String) : Act (Except (Act Nat) Goal) := do
  let t := (← get).tree
  match value? chosen "t", words with
  | some _, [] => pure (.error (do misuse ("missing file operand")))
  | some d, ws =>
    if leadsToFolder t d then pure (.ok ⟨ws, d, true⟩)
    else pure (.error (do fail ("target directory " ++ (← named d) ++ ": " ++
      (match entryOf t true d with
        | .error r => r.text
        | .ok _ => "Not a directory"))))
  | none, [] => pure (.error (misuse "missing file operand"))
  | none, [w] => pure (.error (do misuse ("missing destination file operand after " ++ (← quoted w))))
  | none, ws =>
    let target := ws.getLast?.getD ""
    let sources := ws.dropLast
    if has chosen "T" then
      match sources with
      | [_] => pure (.ok ⟨sources, target, false⟩)
      | _ => pure (.error (do misuse ("extra operand " ++ (← quoted (ws.getD 2 "")))))
    else if leadsToFolder t target then pure (.ok ⟨sources, target, true⟩)
    else if sources.length = 1 then pure (.ok ⟨sources, target, false⟩)
    else pure (.error (do fail ("target " ++ (← named target) ++ ": " ++
      (match entryOf t true target with
        | .error r => r.text
        | .ok _ => "Not a directory"))))

/-- The name that a source gets. -/
def Goal.name (g : Goal) (source : String) : String :=
  if g.isFolder then inside g.target (lastPart source) else g.target

/-- Puts a node under a name, in the place of what is there. -/
def putNode (path : String) (node : Node) : Act (Option Refusal) := do
  let t := (← get).tree
  if path = "" then pure (some .noEntry)
  else match t.locate .entry (pathOf path) with
    | .ok (.present trail) => do
      setTree (t.put (FileTree.namesOf trail) node)
      pure none
    | .ok (.absent above name) => do
      setTree (t.put (FileTree.namesOf above ++ [name]) node)
      pure none
    | .error r => pure (some r)

/-- The entries of two directories, those of the second one in the place of those of the first one. -/
def mergeNodes : Nat → Node → Node → Node
  | 0, _, new => new
  | depth + 1, .directory old, .directory new =>
    .directory (new.foldl (fun all (name, child) =>
      let child := match all.lookup name with
        | some o => mergeNodes depth o child
        | none => child
      Node.putEntry name child all) old)
  | _ + 1, _, new => new

/-- Whether two paths lead to one entry. -/
def isSame (t : FileTree) (a b : String) : Bool :=
  match t.locate .target (pathOf a), t.locate .target (pathOf b) with
  | .ok (.present x), .ok (.present y) => FileTree.namesOf x == FileTree.namesOf y
  | _, _ => false

/-- Whether a name stands below a directory. -/
def isWithin (t : FileTree) (directory path : String) : Bool :=
  let names (p : String) : List String :=
    match t.locate .entry (pathOf p) with
    | .ok (.present x) => FileTree.namesOf x
    | .ok (.absent above n) => FileTree.namesOf above ++ [n]
    | .error _ => []
  let ds := names directory
  let ps := names path
  !ps.isEmpty && ds.isPrefixOf ps

def copy : Plain :=
  withChoices ["a/archive", "r/recursive", "R", "f/force", "n/no-clobber", "v/verbose", "t/target-directory=",
    "T/no-target-directory", "p", "/preserve=?", "u/update=?", "i/interactive", "L/dereference", "P/no-dereference",
    "d",
    "H", "l/link", "s/symbolic-link", "x/one-file-system", "b", "/parents", "/reflink=?",
    "/sparse="] fun chosen words => do
    let recursive := has chosen "r" || has chosen "R" || has chosen "a"
    let follow := !(has chosen "P" || has chosen "d" || has chosen "a" ||
      (recursive && !has chosen "L" && !has chosen "H"))
    match ← goalOf chosen words with
    | .error act => act
    | .ok goal => forEach goal.sources fun source => do
      let t := (← get).tree
      let name := goal.name source
      let said : Act Unit := do
        if has chosen "v" then say 1 ((← named source) ++ " -> " ++ (← named name))
      match entryOf t follow source with
      | .error r => fail ("cannot stat " ++ (← named source) ++ ": " ++ r.text)
      | .ok node =>
        let old? := (entryOf t true name).toOption
        let place (node : Node) : Act Nat := do
          match ← putNode name node with
          | none => do
            said
            pure 0
          | some r =>
            let what := if node.isDirectory then "directory " else "regular file "
            fail ("cannot create " ++ what ++ (← named name) ++ ": " ++ r.text)
        match node, old? with
        | .directory _, old? =>
          if !recursive then fail ("-r not specified; omitting directory " ++ (← named source))
          else if isWithin t source name then
            fail ("cannot copy a directory, " ++ (← named source) ++ ", into itself, " ++ (← named name))
          else match old? with
            | some (.directory es) => place (mergeNodes 1000 (.directory es) node)
            | some _ => fail ("cannot overwrite non-directory " ++ (← named name) ++ " with directory " ++
                (← named source))
            | none => place node
        | _, some (.directory _) =>
          fail ("cannot overwrite directory " ++ (← named name) ++ " with non-directory")
        | .link _, _ => place node
        | .file content executable, some old =>
          if isSame t source name then
            fail ((← named source) ++ " and " ++ (← named name) ++ " are the same file")
          else if has chosen "n" then pure 0
          else if has chosen "i" then do
            if ← confirmed ("cp: overwrite " ++ (← named name) ++ "? ") then replace name content (keptMode old) said
            else pure 1
          else replace name content (keptMode old || (executable && has chosen "p")) said
        | .file content executable, none => place (.file content executable)
where
  keptMode : Node → Bool
    | .file _ executable => executable
    | _ => false
  /-- Writes into a file that is there. -/
  replace (name : String) (content : List UInt8) (executable : Bool) (said : Act Unit) : Act Nat := do
    let t := (← get).tree
    match t.write (pathOf name) content executable with
    | .ok t => do
      setTree t
      said
      pure 0
    | .error _ => fail ("cannot create regular file " ++ (← named name) ++ ": No such file or directory")

def move : Plain :=
  withChoices ["f/force", "i/interactive", "n/no-clobber", "v/verbose", "t/target-directory=", "T/no-target-directory",
    "u/update=?", "b", "S/suffix=", "/strip-trailing-slashes", "/backup=?"] fun chosen words => do
    match ← goalOf chosen words with
    | .error act => act
    | .ok goal => forEach goal.sources fun source => do
      let t := (← get).tree
      let name := goal.name source
      let pair : Act String := do pure ((← named source) ++ " to " ++ (← named name))
      match entryOf t false source, entryNames? t source with
      | .error r, _ => fail ("cannot stat " ++ (← named source) ++ ": " ++ r.text)
      | .ok _, none => fail ("cannot move " ++ (← pair) ++ ": Device or resource busy")
      | .ok node, some names => do
        let old? := (entryOf t false name).toOption
        let go : Act Nat := do
          setTree (t.remove names)
          match ← putNode name node with
          | none => do
            if has chosen "v" then say 1 ("renamed " ++ (← named source) ++ " -> " ++ (← named name))
            pure 0
          | some r => do
            setTree t
            fail ("cannot move " ++ (← pair) ++ ": " ++ r.text)
        match node, old? with
        | _, some old =>
          if isSame t source name && entryNames? t name = some names then
            if node.isDirectory then
              fail ("cannot move " ++ (← named source) ++ " to a subdirectory of itself, " ++
                (← named (inside name (lastPart source))))
            else fail ((← named source) ++ " and " ++ (← named name) ++ " are the same file")
          else if has chosen "n" then pure 0
          else if node.isDirectory && isWithin t source name then
            fail ("cannot move " ++ (← named source) ++ " to a subdirectory of itself, " ++ (← named name))
          else match node, old with
            | .directory _, .directory es =>
              if es.isEmpty then go else fail ("cannot move " ++ (← pair) ++ ": Directory not empty")
            | .directory _, _ =>
              fail ("cannot overwrite non-directory " ++ (← named name) ++ " with directory " ++ (← named source))
            | _, .directory _ => fail ("cannot overwrite directory " ++ (← named name) ++ " with non-directory")
            | _, _ =>
              if has chosen "i" && !has chosen "f" then do
                if ← confirmed ("mv: overwrite " ++ (← named name) ++ "? ") then go else pure 1
              else go
        | _, none =>
          if node.isDirectory && isWithin t source name then
            fail ("cannot move " ++ (← named source) ++ " to a subdirectory of itself, " ++ (← named name))
          else go

def link : Plain :=
  withChoices ["s/symbolic", "f/force", "n/no-dereference", "v/verbose", "t/target-directory=", "T/no-target-directory",
    "r/relative", "i/interactive", "L/logical", "P/physical", "b", "S/suffix=", "/backup=?"] fun chosen words => do
    let t := (← get).tree
    let symbolic := has chosen "s"
    let goal : Except (Act Nat) Goal ← match words, value? chosen "t" with
      | [w], none => pure (.ok (⟨[w], ".", true⟩ : Goal))
      | ws, _ => do
        let last := ws.getLast?.getD ""
        let kept := (has chosen "n" && isLink t last) || has chosen "T"
        match ← goalOf chosen ws with
        | .ok g => pure (.ok (if kept && g.sources.length = 1 then { g with target := last, isFolder := false } else g))
        | .error act => pure (.error act)
    match goal with
    | .error act => act
    | .ok goal => forEach goal.sources fun source => do
      let t := (← get).tree
      let name := goal.name source
      let refuse (text : String) : Act Nat := refuseLink symbolic name source text
      let node? : Except (Act Nat) Node :=
        if symbolic then .ok (.link source)
        else match entryOf t false source with
          | .error r => .error (do fail ("failed to access " ++ (← named source) ++ ": " ++ r.text))
          | .ok n =>
            if n.isDirectory then .error (do fail (source ++ ": hard link not allowed for directory"))
            else .ok n
      match node? with
      | .error act => act
      | .ok node =>
        match entryOf t false name with
        | .ok old =>
          if !has chosen "f" then refuse "File exists"
          else if old.isDirectory then fail (name ++ ": cannot overwrite directory")
          else store (has chosen "v") name node source
        | .error _ => store (has chosen "v") name node source
where
  isLinkNode : Node → Bool
    | .link _ => true
    | _ => false
  store (told : Bool) (name : String) (node : Node) (source : String) : Act Nat := do
    match ← putNode name node with
    | none => do
      if told then say 1 ((← named name) ++ (if isLinkNode node then " -> " else " => ") ++ (← named source))
      pure 0
    | some r => refuseLink (isLinkNode node) name source r.text
  refuseLink (symbolic : Bool) (name source text : String) : Act Nat := do
    let shown ← named source
    let pair := (← named name) ++ if symbolic then "" else " => " ++ shown
    fail ("failed to create " ++ (if symbolic then "symbolic" else "hard") ++ " link " ++ pair ++ ": " ++ text)

/-! ### Permissions -/

/-- The permissions of a node, as three digits of base eight. -/
def modeOf : Node → Nat
  | .file _ true | .directory _ => 493
  | .file _ false => 420
  | .link _ => 511

/-- The bits of a class of users. -/
def classBits : Char → Nat
  | 'u' => 448
  | 'g' => 56
  | 'o' => 7
  | _ => 511

/-- The bits of a permission, for all classes. -/
def permissionBits? (isDirectory : Bool) (old : Nat) : Char → Option Nat
  | 'r' => some 292
  | 'w' => some 146
  | 'x' => some 73
  | 'X' => some (if isDirectory || old &&& 73 ≠ 0 then 73 else 0)
  | 's' | 't' => some 0
  | _ => none

/-- One change of permissions after another: classes, a sign, and permissions. -/
def applyChange (isDirectory : Bool) (old : Nat) (cs : List Char) : Option Nat :=
  let who := cs.takeWhile fun c => "ugoa".toList.contains c
  let mask := if who.isEmpty then 511 else who.foldl (fun m c => m ||| classBits c) 0
  let rec go : Nat → Nat → List Char → Option Nat
    | 0, mode, _ => some mode
    | _ + 1, mode, [] => some mode
    | fuel + 1, mode, sign :: rest =>
      if !"+-=".toList.contains sign then none
      else
        let letters := rest.takeWhile fun c => !"+-=".toList.contains c
        let bits? := letters.foldlM (fun b c => (permissionBits? isDirectory old c).map (b ||| ·)) 0
        match bits? with
        | none => none
        | some bits =>
          let bits := bits &&& mask
          let next := if sign = '+' then mode ||| bits
            else if sign = '-' then mode &&& (511 - bits)
            else (mode &&& (511 - mask)) ||| bits
          go fuel next (rest.drop letters.length)
  if cs.length = who.length then none else go (cs.length + 1) old (cs.drop who.length)

/-- The permissions that a text asks for. -/
def newMode? (isDirectory : Bool) (old : Nat) (text : String) : Option Nat :=
  let cs := text.toList
  if !cs.isEmpty && cs.all (fun c => (Text.digitIn? 8 c).isSome) then
    let n := Text.numberOf 8 cs
    if n < 4096 then some (n % 512) else none
  else if cs.isEmpty then none
  else (Text.splitAt ',' cs).foldlM (fun mode part => applyChange isDirectory mode part) old

/-- The permissions as three letters for each class. -/
def modeText (mode : Nat) : String :=
  String.ofList ((List.range 9).map fun i =>
    if mode &&& Nat.pow 2 (8 - i) ≠ 0 then "rwx".toList.getD (i % 3) '-' else '-')

def octalMode (mode : Nat) : String :=
  let digits := Nat.toDigits 8 mode
  String.ofList (List.replicate (4 - digits.length) '0' ++ digits)

def changeMode : Plain := fun arguments => do
  let isMode (a : String) : Bool :=
    a.length ≥ 2 && a.startsWith "-" && (a.toList.drop 1).all fun c => "rwxXst,+-=ugoa".toList.contains c
  let signed := arguments.find? isMode
  let others := match signed with
    | some m => arguments.erase m
    | none => arguments
  withChoices ["c/changes", "f/silent", "/quiet", "v/verbose", "R/recursive", "/reference=", "/preserve-root",
    "/no-preserve-root"] (fun chosen words => do
      let words := match signed with
        | some m => m :: words
        | none => words
      match words with
      | [] => misuse "missing operand"
      | [m] => misuse ("missing operand after " ++ (← quoted m))
      | mode :: paths =>
        if (newMode? false 420 mode).isNone then misuse ("invalid mode: " ++ (← quoted mode))
        else forEach paths fun path => do
          match entryOf (← get).tree true path with
          | .error r =>
            if has chosen "f" then pure 1 else fail ("cannot access " ++ (← named path) ++ ": " ++ r.text)
          | .ok node => do
            let all := if has chosen "R" then (pathsBelow 1000 path node).reverse.map Prod.fst else [path]
            forEach all fun p => do
              let t := (← get).tree
              match entryOf t true p with
              | .ok n => do
                let old := modeOf n
                let new := (newMode? n.isDirectory old mode).getD old
                if has chosen "v" || (has chosen "c" && old ≠ new) then
                  let text (m : Nat) : String := octalMode m ++ " (" ++ modeText m ++ ")"
                  say 1 ("mode of " ++ (← named p) ++
                    (if old = new then " retained as " ++ text old else " changed from " ++ text old ++ " to " ++
                      text new))
                match n, t.locate .target (pathOf p) with
                | .file content _, .ok (.present trail) =>
                  setTree (t.put (FileTree.namesOf trail) (.file content (new &&& 73 ≠ 0)))
                | _, _ => pure ()
                pure 0
              | .error _ => pure 0) 1 true others

/-- Copies files with permissions, or makes directories. -/
def install : Plain :=
  withChoices ["d/directory", "m/mode=", "D", "v/verbose", "t/target-directory=", "T/no-target-directory", "o/owner=",
    "g/group=", "p/preserve-timestamps", "s/strip", "C/compare", "c"] fun chosen words => do
    if has chosen "d" then makeDirectories ("-p" :: words)
    else match ← goalOf chosen words with
      | .error act => act
      | .ok goal => forEach goal.sources fun source => do
        match ← readFile source with
        | .error .isDirectory => fail ("omitting directory " ++ (← named source))
        | .error r => fail ("cannot stat " ++ (← named source) ++ ": " ++ r.text)
        | .ok content => do
          let name := goal.name source
          if has chosen "D" then
            let _ ← makeDirectories ["-p", (pathOf name).parent.text]
          let mode := ((value? chosen "m").bind (newMode? false 0)).getD 493
          match ← putNode name (.file content (mode &&& 73 ≠ 0)) with
          | none => do
            if has chosen "v" then say 1 ((← named source) ++ " -> " ++ (← named name))
            pure 0
          | some r => fail ("cannot create regular file " ++ (← named name) ++ ": " ++ r.text)

/-! ### Names for a while -/

/-- Characters of a name that nobody has thought of. -/
def oddName (count seed : Nat) : String :=
  let letters := "abcdefghijklmnopqrstuvwxyzABCDEFGHIJKLMNOPQRSTUVWXYZ0123456789".toList.toArray
  let step (n : Nat) : Nat := (n * 6364136223846793005 + 1442695040888963407) % Nat.pow 2 64
  let rec go : Nat → Nat → List Char
    | 0, _ => []
    | k + 1, n => (letters[n / Nat.pow 2 33 % 62]?).getD 'a' :: go k (step n)
  String.ofList (go count (step (step (seed + 77))))

/-- Makes a file or a directory with a name of its own. -/
def makeTemporary : Plain :=
  withChoices ["d/directory", "u/dry-run", "q/quiet", "p=", "/tmpdir=?", "t", "/suffix="] fun chosen words => do
    let s ← get
    match words with
    | _ :: _ :: _ => misuse "too many templates"
    | _ => do
      let usual := ((surroundings s).get? "TMPDIR").filter (· ≠ "")
      let given := (value? chosen "p").orElse fun _ => (value? chosen "tmpdir").map fun d => if d = "" then
        usual.getD "/tmp" else d
      let template := words.headD "tmp.XXXXXXXXXX"
      let folder : Option String := if words.isEmpty || has chosen "t" then some (given.getD (usual.getD "/tmp"))
        else given
      let suffix := value? chosen "suffix"
      let cs := template.toList
      let tail := if suffix.isSome then [] else (cs.reverse.takeWhile (· ≠ 'X')).reverse
      let front := cs.take (cs.length - tail.length)
      let marks := (front.reverse.takeWhile (· = 'X')).length
      if marks < 3 then fail ("too few X's in template " ++ (← quoted template))
      else
        let full (i : Nat) : String :=
          let name := String.ofList (front.take (front.length - marks)) ++
            oddName marks (i + s.elapsed + s.tree.root.entries.length) ++ String.ofList tail ++ suffix.getD ""
          match folder with
          | some d => inside d name
          | none => name
        let shown := match folder with
          | some d => inside d (template ++ suffix.getD "")
          | none => template ++ suffix.getD ""
        let free := (List.range 1000).find? fun i => (entryOf s.tree false (full i)).toOption.isNone
        let path := full (free.getD 0)
        let refuse (r : Refusal) : Act Nat := do
          if has chosen "q" then pure 1
          else
            fail ("failed to create " ++ (if has chosen "d" then "directory" else "file") ++ " via template " ++
              (← quoted shown) ++ ": " ++ r.text)
        if has chosen "u" then do
          say 1 path
          pure 0
        else match ← putNode path (if has chosen "d" then .directory [] else .file [] false) with
          | none => do
            say 1 path
            pure 0
          | some r => refuse r
where
  surroundings (s : State) : Environment := s.bindings.filterMap fun (n, v) => v.value?.map (n, ·)

end Tool
end LintRun.Shell
