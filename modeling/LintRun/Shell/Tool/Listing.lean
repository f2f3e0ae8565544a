import LintRun.Shell.Tool.Entry

/-!
# Shell — Programs of the system that show directories

* `list`: the entries of directories.
* `describe`: what is known of files.
* `readLink`, `realPath`: where links and paths lead.
-/

namespace LintRun.Shell
namespace Tool

/-! ### Entries of directories -/

/-- An entry that is to be shown: its name, and what it is. -/
structure Shown where
  name : String
  node : Node

def sizeOf : Node → Nat
  | .file content _ => content.length
  | .link target => target.utf8ByteSize
  | .directory _ => 4096

/-- The number of blocks of 1024 bytes that a node takes. -/
def blocksOf : Node → Nat
  | .file content _ => (content.length + 4095) / 4096 * 4
  | .link _ => 0
  | .directory _ => 4

def linksOf (n : Node) : Nat :=
  match n with
  | .directory es => 2 + (es.filter fun e => e.2.isDirectory).length
  | _ => 1

def kindLetter : Node → Char
  | .file _ _ => '-'
  | .link _ => 'l'
  | .directory _ => 'd'

/-- Whether a name comes before another one, byte by byte. -/
def comesBefore (a b : String) : Bool := a ≤ b

/-- The entries in the order that is asked for. -/
def arranged (chosen : List Choice) (es : List Shown) : List Shown :=
  let unsorted := has chosen "U" || has chosen "f" || value? chosen "sort" = some "none"
  let bySize := has chosen "S" || value? chosen "sort" = some "size"
  let sorted := if unsorted then es
    else es.mergeSort fun a b =>
      if bySize && sizeOf a.node ≠ sizeOf b.node then sizeOf b.node < sizeOf a.node else comesBefore a.name b.name
  if has chosen "r" && !unsorted then sorted.reverse else sorted

/-- Whether lines with all that is known are asked for. -/
def isLong (chosen : List Choice) : Bool :=
  (lastOf? chosen ["l", "g", "o", "n", "1", "C", "x", "m"]).any fun k => ["l", "g", "o", "n", "1"].contains k &&
    chosen.any fun c => ["l", "g", "o", "n"].contains c.key

/-- The name of an entry as it is shown. -/
def displayed (chosen : List Choice) (e : Shown) : String :=
  let name := if has chosen "Q" || value? chosen "quoting-style" = some "c" then
      "\"" ++ String.ofList (e.name.toList.flatMap fun c => if c = '"' || c = '\\' then ['\\', c] else [c]) ++ "\""
    else if has chosen "b" then
      String.ofList (e.name.toList.flatMap fun c => if c = ' ' || c = '\\' then ['\\', c] else if c = '\n' then
        ['\\', 'n'] else [c])
    else if has chosen "q" then String.ofList (e.name.toList.map fun c => if c.toNat < 32 then '?' else c)
    else e.name
  let mark := match e.node with
    | .directory _ => if has chosen "F" || has chosen "p" then "/" else ""
    | .link _ => if has chosen "F" && !isLong chosen then "@" else ""
    | .file _ true => if has chosen "F" then "*" else ""
    | .file _ false => ""
  name ++ mark

/-- Lines with all that is known of entries. -/
def longLines (chosen : List Choice) (es : List Shown) : List String :=
  let columns (e : Shown) : List String :=
    let size := sizeOf e.node
    let shownSize := if has chosen "h" && 1024 ≤ size then toString ((size + 1023) / 1024) ++ ".0K" else toString size
    let user := if has chosen "n" then "0" else "root"
    [String.ofList [kindLetter e.node] ++ modeText (modeOf e.node), toString (linksOf e.node)] ++
      (if has chosen "g" then [] else [user]) ++ (if has chosen "o" || has chosen "G" then [] else [user]) ++
        [shownSize]
  let rows := es.map columns
  let width (i : Nat) : Nat := rows.foldl (fun w r => max w (r.getD i "").length) 0
  let time := String.ofList (Clock.format Clock.start "%b %e %H:%M".toList)
  (es.zip rows).map fun (e, r) =>
    let n := r.length
    let cells := r.zipIdx.map fun (c, i) =>
      if i = 1 || i + 1 = n then Text.padLeft (width i) c else Text.padRight (width i) c
    let target := match e.node with
      | .link t => " -> " ++ t
      | _ => ""
    (if has chosen "s" then toString (blocksOf e.node) ++ " " else "") ++ Text.joinWith " " cells ++ " " ++ time ++
      " " ++
      displayed chosen e ++ target

/-- Texts in columns that are read downwards, or across, within a width. -/
def inColumns (across : Bool) (width : Nat) (texts : List String) : List String :=
  let n := texts.length
  let cells := texts.toArray
  let cell (rows columns r c : Nat) : Option String :=
    let i := if across then r * columns + c else c * rows + r
    if c < columns then cells[i]? else none
  let widths (columns : Nat) : List Nat :=
    let rows := (n + columns - 1) / columns
    (List.range columns).map fun c =>
      (List.range rows).foldl (fun w r => max w ((cell rows columns r c).getD "").length) 0
  let fits (columns : Nat) : Bool :=
    let rows := (n + columns - 1) / columns
    let full := across || (columns - 1) * rows < n
    full && (widths columns).foldl (· + ·) 0 + 2 * (columns - 1) ≤ width
  if n = 0 then []
  else
    let columns := ((List.range (min n (width / 3 + 1))).reverse.map (· + 1)).find? fits |>.getD 1
    let rows := (n + columns - 1) / columns
    let ws := widths columns
    (List.range rows).map fun r =>
      let line := (List.range columns).filterMap fun c => (cell rows columns r c).map fun t => (t, c)
      let last := line.length
      String.join (line.zipIdx.map fun ((t, c), i) => if i + 1 = last then t else Text.padRight ((ws.getD c 0) + 2) t)

/-- Texts with commas between them, on lines of a width. -/
def withCommas (width : Nat) (texts : List String) : List String :=
  let n := texts.length
  let (lines, line) := texts.zipIdx.foldl (fun (acc : List String × String) (t, i) =>
    let (lines, line) := acc
    let piece := t ++ if i + 1 < n then "," else ""
    if line = "" then (lines, piece)
    else if line.length + 1 + piece.length < width then (lines, line ++ " " ++ piece)
    else (line :: lines, piece)) ([], "")
  (if line = "" then lines else line :: lines).reverse

/-- Shows entries. -/
def showEntries (chosen : List Choice) (es : List Shown) : Act Unit := do
  let es := arranged chosen es
  let ending := if has chosen "zero" then "\x00" else "\n"
  if isLong chosen then (longLines chosen es).forM fun l => put 1 (l ++ ending)
  else
    let texts := es.map fun e =>
      (if has chosen "i" then "1 " else "") ++ (if has chosen "s" then toString (blocksOf e.node) ++ " " else "") ++
        displayed chosen e
    let width := ((value? chosen "w").bind Text.natural?).getD 80
    match lastOf? chosen ["1", "C", "x", "m"] with
    | some "C" => (inColumns false width texts).forM (say 1)
    | some "x" => (inColumns true width texts).forM (say 1)
    | some "m" => (withCommas width texts).forM (say 1)
    | _ => texts.forM fun t => put 1 (t ++ ending)

/-- The entries of a directory that are to be shown. -/
def shownEntries (chosen : List Choice) (es : List (String × Node)) : List Shown :=
  let own := es.map fun (n, node) => (⟨n, node⟩ : Shown)
  let ignored := chosen.filterMap fun c => if c.key = "I" then some c.value else none
  let own := own.filter fun e =>
    let pattern (p : String) : Bool :=
      Pattern.accepts false (Pattern.ofGlyphs false (p.toList.map fun c => ⟨c, false⟩)) e.name.toList
    !(ignored.any pattern) && !(has chosen "B" && e.name.endsWith "~")
  if has chosen "a" || has chosen "f" then ⟨".", .directory es⟩ :: ⟨"..", .directory []⟩ :: own
  else if has chosen "A" then own
  else own.filter fun e => !e.name.startsWith "."

/-- Shows a directory, and those in it if that is asked for. -/
def showDirectory (chosen : List Choice) (titled : Bool) : Nat → Bool → String → List (String × Node) → Act Unit
  | 0, _, _, _ => pure ()
  | depth + 1, first, path, es => do
    if !first then say 1 ""
    if titled then say 1 (path ++ ":")
    let own := shownEntries chosen es
    if isLong chosen || has chosen "s" then
      say 1 ("total " ++ toString ((own.map fun e => blocksOf e.node).foldl (· + ·) 0))
    showEntries chosen own
    if has chosen "R" then
      (arranged chosen own).forM fun e => do
        if e.name ≠ "." && e.name ≠ ".." then
          if let .directory inner := e.node then showDirectory chosen titled depth false (inside path e.name) inner

def listOptions : List String :=
  ["a/all", "A/almost-all", "d/directory", "F/classify=?", "p", "r/reverse", "R/recursive", "m", "C", "x", "1", "l",
    "h/human-readable", "/si", "n/numeric-uid-gid", "g", "o", "G/no-group", "s/size", "S", "t", "c", "u", "U", "f",
    "v", "X",
    "i/inode", "Q/quote-name", "b/escape", "N/literal", "q/hide-control-chars", "/show-control-chars",
    "B/ignore-backups",
    "I/ignore=", "L/dereference", "H/dereference-command-line", "w/width=", "T/tabsize=", "k/kibibytes", "D/dired",
    "Z/context",
    "/color=?", "/sort=", "/time=", "/time-style=", "/format=", "/indicator-style=", "/file-type", "/quoting-style=",
    "/group-directories-first", "/full-time", "/hyperlink=?", "/zero", "/block-size=", "/author"]

def list : Plain :=
  withChoices (listOptions.map fun o => if o = "F/classify=?" then "F/classify" else o) (fun chosen words => do
    let t := (← get).tree
    let words := if words.isEmpty then ["."] else words
    let plain := has chosen "d"
    let follow := has chosen "L" || has chosen "H" || !(plain || isLong chosen || has chosen "F")
    let look (w : String) : Except Refusal Node :=
      match entryOf t follow w with
      | .ok n => .ok n
      | .error r => if follow then entryOf t false w else .error r
    let status ← forEach words fun w => do
      match look w with
      | .ok _ => pure 0
      | .error r => fail ("cannot access " ++ (← named w) ++ ": " ++ r.text) 2
    let all := words.filterMap fun w => (look w).toOption.map fun n => (⟨w, n⟩ : Shown)
    let (folders, files) := if plain then ([], all) else all.partition fun e => e.node.isDirectory
    if !files.isEmpty then showEntries chosen files
    let titled := 1 < words.length || has chosen "R"
    (arranged chosen folders).zipIdx.forM fun (e, i) => do
      showDirectory chosen titled 1000 (files.isEmpty && i = 0) e.name e.node.entries
    pure status) 2

/-! ### What is known of files -/

/-- What a letter of a format stands for. -/
def described (quote : String → String) (path : String) (n : Node) : Char → String
  | 'n' => path
  | 'N' => quote path ++ match n with
    | .link t => " -> " ++ quote t
    | _ => ""
  | 's' => toString (sizeOf n)
  | 'F' => match n with
    | .file [] _ => "regular empty file"
    | .file _ _ => "regular file"
    | .link _ => "symbolic link"
    | .directory _ => "directory"
  | 'a' => String.ofList (Nat.toDigits 8 (modeOf n))
  | 'A' => String.ofList [kindLetter n] ++ modeText (modeOf n)
  | 'f' => String.ofList (Nat.toDigits 16 (modeOf n + match n with
    | .file _ _ => 32768
    | .link _ => 40960
    | .directory _ => 16384))
  | 'U' | 'G' => "root"
  | 'u' | 'g' => "0"
  | 'h' => toString (linksOf n)
  | 'b' => toString (2 * blocksOf n)
  | 'B' => "512"
  | 'o' => "4096"
  | 'i' => "1"
  | 'd' => "1"
  | 'm' => "/"
  | 'X' | 'Y' | 'Z' => toString Clock.start
  | 'x' | 'y' | 'z' => String.ofList (Clock.format Clock.start "%Y-%m-%d %H:%M:%S".toList) ++ ".000000000 +0000"
  | 'W' => "0"
  | 'w' => "-"
  | '%' => "%"
  | _ => "?"

/-- A format with what its letters stand for; `escapes` tells whether backslashes count. -/
def filledFormat (escapes : Bool) (look : Char → String) : Nat → List Char → List Char
  | 0, _ => []
  | _ + 1, [] => []
  | fuel + 1, '%' :: rest =>
    let flags := rest.takeWhile fun c => "#-+ 0'".toList.contains c || Text.isAsciiDigit c
    let width := Text.numberOf 10 (flags.dropWhile fun c => !Text.isAsciiDigit c || c = '0')
    match rest.drop flags.length with
    | [] => ['%']
    | c :: rest =>
      let text := look c
      let shown := if flags.contains '-' then Text.padRight width text else Text.padLeft width text
      shown.toList ++ filledFormat escapes look fuel rest
  | fuel + 1, '\\' :: rest =>
    if !escapes then '\\' :: filledFormat escapes look fuel rest
    else match escape .posix .format rest with
      | some (bytes, n) => Encoding.decode .ascii bytes ++ filledFormat escapes look fuel (rest.drop n)
      | none => []
  | fuel + 1, c :: rest => c :: filledFormat escapes look fuel rest

/-- What is said of a file if nothing else is asked for. -/
def usualDescription (quote : String → String) (path : String) (n : Node) : String :=
  let look := described quote path n
  let time := look 'y'
  let octal := octalMode (modeOf n)
  Text.joinWith "\n"
    ["  File: " ++ (match n with
        | .link t => path ++ " -> " ++ t
        | _ => path),
      "  Size: " ++ Text.padRight 10 (look 's') ++ "\tBlocks: " ++ Text.padRight 10 (look 'b') ++ " IO Block: " ++
      Text.padRight 6 (look 'o') ++ " " ++ look 'F',
      "Device: 0,1\tInode: " ++ Text.padRight 11 "1" ++ " Links: " ++ look 'h',
      "Access: (" ++ octal ++ "/" ++ look 'A' ++ ")  Uid: (    0/    root)   Gid: (    0/    root)",
      "Access: " ++ time, "Modify: " ++ time, "Change: " ++ time, " Birth: -"]

def describe : Plain :=
  withChoices ["c/format=", "/printf=", "L/dereference", "f/file-system", "t/terse", "Z"] fun chosen words => do
    if words.isEmpty then misuse "missing operand"
    else
      let s ← get
      forEach words fun path => do
        match entryOf s.tree (has chosen "L") path with
        | .error r => fail ("cannot statx " ++ (← named path) ++ ": " ++ r.text)
        | .ok n => do
          let quote := quotedName s
          let filled (escapes : Bool) (f : String) : String :=
            String.ofList (filledFormat escapes (described quote path n) (f.length + 1) f.toList)
          match lastOf? chosen ["c", "printf"] with
          | some "c" => say 1 (filled false ((value? chosen "c").getD ""))
          | some _ => put 1 (filled true ((value? chosen "printf").getD ""))
          | none => say 1 (usualDescription quote path n)
          pure 0

/-! ### Where paths lead -/

/-- How much of a path has to be there: all of it, all but its last part, or nothing. -/
inductive Demand
  | all
  | front
  | nothing
  deriving DecidableEq, Repr

/-- The parts of a path without dots, as they are written. -/
def plainParts (parts : List String) : List String :=
  (parts.foldl (fun acc p => if p = ".." then acc.drop 1 else if p = "." || p = "" then acc else p :: acc) []).reverse

/-- The path from the root, through all links, that a path leads to. -/
def canonical (t : FileTree) (d : Demand) (text : String) : Except Refusal String :=
  let whole (parts : List String) : String := "/" ++ Text.joinWith "/" parts
  let p := absolutePath t (pathOf text)
  if text = "" then .error .noEntry
  else match t.locate .target ⟨(pathOf text).root, Path.pieces text.toList⟩ with
    | .ok (.present trail) => .ok (whole (FileTree.namesOf trail))
    | .ok (.absent above name) =>
      if d ≠ .all then .ok (whole (FileTree.namesOf above ++ [name]))
      else if (System.kind? p).isSome then .ok (whole (plainParts p.parts))
      else .error .noEntry
    | .error r =>
      if d = .nothing || (System.kind? ⟨.absolute, plainParts p.parts⟩).isSome then .ok (whole (plainParts p.parts))
      else .error r

/-- A path as it is seen from a directory; both are written from the root. -/
def seenFrom (directory path : String) : String :=
  let split (s : String) : List String := (Path.ofString s).parts
  let rec go : List String → List String → List String
    | a :: as, b :: bs => if a = b then go as bs else (a :: as).map (fun _ => "..") ++ b :: bs
    | as, bs => as.map (fun _ => "..") ++ bs
  let parts := go (split directory) (split path)
  if parts.isEmpty then "." else Text.joinWith "/" parts

def readLink : Plain :=
  withChoices ["f/canonicalize", "e/canonicalize-existing", "m/canonicalize-missing", "n/no-newline", "q/quiet",
    "s/silent",
    "v/verbose", "z/zero"] fun chosen words => do
    let t := (← get).tree
    let ending := if has chosen "z" then "\x00" else if has chosen "n" && words.length = 1 then "" else "\n"
    if words.isEmpty then misuse "missing operand"
    else forEach words fun path => do
      let refuse (text : String) : Act Nat := do
        if has chosen "v" then fail (shownName (← get) path ++ ": " ++ text) else pure 1
      match lastOf? chosen ["f", "e", "m"] with
      | some k =>
        match canonical t (if k = "e" then .all else if k = "f" then .front else .nothing) path with
        | .ok text => do
          put 1 (text ++ ending)
          pure 0
        | .error r => refuse r.text
      | none =>
        match entryOf t false path with
        | .ok (.link target) => do
          put 1 (target ++ ending)
          pure 0
        | .ok _ => refuse "Invalid argument"
        | .error r => refuse r.text

def realPath : Plain :=
  withChoices ["e/canonicalize-existing", "m/canonicalize-missing", "s/strip", "/no-symlinks", "L/logical",
    "P/physical",
    "q/quiet", "z/zero", "/relative-to=", "/relative-base="] fun chosen words => do
    let t := (← get).tree
    let ending := if has chosen "z" then "\x00" else "\n"
    let demand := match lastOf? chosen ["e", "m"] with
      | some "e" => Demand.all
      | some _ => .nothing
      | none => .front
    let lexical := has chosen "s" || has chosen "no-symlinks"
    let resolve (path : String) : Except Refusal String :=
      if lexical && path ≠ "" then .ok ("/" ++ Text.joinWith "/" (plainParts (absolutePath t (pathOf path)).parts))
      else canonical t demand path
    if words.isEmpty then misuse "missing operand"
    else forEach words fun path => do
      match resolve path with
      | .ok text => do
        let shown := match (value? chosen "relative-to").map resolve with
          | some (.ok d) => seenFrom d text
          | _ => text
        put 1 (shown ++ ending)
        pure 0
      | .error r => if has chosen "q" then pure 1 else fail (shownName (← get) path ++ ": " ++ r.text)

end Tool
end LintRun.Shell
