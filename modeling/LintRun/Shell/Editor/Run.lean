import LintRun.Shell.Editor.Reader
import LintRun.Shell.Redirection
import LintRun.Shell.Tool.Start

/-!
# Shell — The stream editor: editing

* `Editing`: the line that is being edited, and all that is kept from one line to the next.
* `cycle`: what a script does with one line.
* `edit`: the stream editor as a program.
-/

namespace LintRun.Shell
namespace Editor

/-- Where the lines of a range end. -/
inductive Range
  /-- No range has been entered. -/
  | idle
  | upTo (line : Nat)
  /-- Up to a line that is looked for. -/
  | searching

/-- What is written after the line. -/
inductive Queued
  | text (cs : List Char)
  | file (name : String)
  | line (bytes : List UInt8)

/-- How files are edited. -/
structure Setup where
  script : Script
  quiet : Bool := false
  /-- Each file has lines of its own. -/
  separate : Bool := false
  /-- The files are changed; what is put to their names for the old ones. -/
  inPlace : Option String := none
  mark : UInt8 := 10
  set : Charset := .ascii
  width : Nat := 70
  /-- Where commands write to. -/
  targets : List (String × Stream) := []

/-- The line that is being edited, and all that is kept from one line to the next. -/
structure Editing where
  files : List String
  name : String := "-"
  lines : List (List UInt8 × Bool) := []
  number : Nat := 0
  space : List Char := []
  /-- The line has an end. -/
  closed : Bool := true
  held : List Char := []
  heldClosed : Bool := true
  queue : List Queued := []
  ranges : Array Range
  replaced : Bool := false
  last : Option Search := none
  out : Array (List UInt8) := #[]
  /-- The outputs whose last line has no end. -/
  unfinished : List String := []
  /-- The files that are read line by line. -/
  readers : List (String × List (List UInt8)) := []
  /-- A file is being changed. -/
  changing : Bool := false
  status : Nat := 0

abbrev Edit := StateT Editing Act

/-- Writes bytes to an output, which is the empty name for the main one. -/
def emitRaw (e : Setup) (target : String) (bytes : List UInt8) : Edit Unit := do
  let s ← get
  let gap : List UInt8 := if s.unfinished.contains target then [e.mark] else []
  let all := gap ++ bytes
  modify fun s => { s with unfinished := s.unfinished.filter (· ≠ target) }
  if target = "" then modify fun s => { s with out := s.out.push all }
  else match e.targets.lookup target with
    | some stream => writeTo stream all
    | none => pure ()

/-- Writes a line to an output. -/
def emit (e : Setup) (target : String) (line : List Char) (closed : Bool) : Edit Unit := do
  emitRaw e target (bytesOf line ++ if closed then [e.mark] else [])
  if !closed then modify fun s => { s with unfinished := target :: s.unfinished }

/-- The output that a name stands for. -/
def targetOf (e : Setup) (name : String) : String := if name = "/dev/stdout" && e.inPlace.isNone then "" else name

/-- Writes what is waiting to follow the line. -/
def emitQueue (e : Setup) : Edit Unit := do
  let queue := (← get).queue.reverse
  modify fun s => { s with queue := [] }
  queue.forM fun q => do
    match q with
    | .text cs => emitRaw e "" (bytesOf cs)
    | .line bytes => emitRaw e "" (bytes ++ [e.mark])
    | .file name => do
      match ← (if name = "/dev/stdin" then .ok <$> takeInput else readFile name : Act _) with
      | .ok bytes => if !bytes.isEmpty then emitRaw e "" bytes
      | .error _ => pure ()

/-! ### Input -/

/-- The lines of a file, each with the answer whether it has an end. -/
def closedLines (mark : UInt8) (bytes : List UInt8) : List (List UInt8 × Bool) :=
  let (ls, closed) := Tool.lines mark bytes
  let n := ls.length
  ls.zipIdx.map fun (l, i) => (l, closed || i + 1 < n)

/-- Puts the changed text in the place of the file. -/
def finishFile (e : Setup) : Edit Unit := do
  let s ← get
  if s.changing then
    if let some ending := e.inPlace then
      let old ← readFile s.name
      if ending ≠ "" then
        let base := (s.name.splitOn "/").getLast?.getD s.name
        let named := if ending.toList.contains '*' then ending.replace "*" base else base ++ ending
        let folder := (s.name.toList.reverse.dropWhile (· ≠ '/')).reverse
        let backup := if named.toList.contains '/' then named else String.ofList folder ++ named
        if let (.ok bytes, .ok stream) := (old, ← openOutput false false backup) then writeTo stream bytes
      match ← openOutput false false s.name with
      | .ok stream => writeTo stream s.out.toList.flatten
      | .error _ => pure ()
    set { s with out := #[], changing := false, unfinished := s.unfinished.filter (· ≠ "") }

/-- Goes on to the next file that can be read; tells whether there is one. -/
def nextFile (e : Setup) : Nat → Edit Bool
  | 0 => pure false
  | fuel + 1 => do
    finishFile e
    match (← get).files with
    | [] => pure false
    | name :: rest => do
      modify fun s => { s with files := rest }
      let fail (text : String) (status : Nat) : Edit Bool := do
        Tool.remark text
        modify fun s => { s with status }
        nextFile e fuel
      let isInput := name = "-" && e.inPlace.isNone
      match ← (if isInput then .ok <$> takeInput else readFile name : Act _) with
      | .ok bytes => do
        modify fun s =>
          { s with
            name, lines := closedLines e.mark bytes, changing := e.inPlace.isSome
            number := if e.separate then 0 else s.number }
        if bytes.isEmpty then nextFile e fuel else pure true
      | .error .isDirectory =>
        if e.inPlace.isSome then fail ("couldn't edit " ++ name ++ ": not a regular file") 4
        else fail ("read error on " ++ name ++ ": Is a directory") 4
      | .error r => fail ("can't read " ++ name ++ ": " ++ r.text) 2

/-- Whether there is anything in files that have yet to be read. -/
def moreIn (files : List String) : Act Bool :=
  files.foldlM (fun found name => do
    if found then pure true
    else if name = "-" then pure (!(inputOf (← get) 0).isEmpty)
    else match (← get).tree.node? (pathOf name) with
      | .ok (.file content _) => pure (!content.isEmpty)
      | _ => pure false) false

/-- Whether the line is the last one. -/
def isLast (e : Setup) : Edit Bool := do
  let s ← get
  if !s.lines.isEmpty then pure false
  else if e.separate then pure true
  else do
    let more ← moreIn s.files
    pure !more

/-- Whether no line follows in any file. -/
def isOver : Edit Bool := do
  let s ← get
  if !s.lines.isEmpty then pure false
  else do
    let more ← moreIn s.files
    pure !more

/-- Reads the next line. `added` tells whether it is put to the old one. -/
def readLine (e : Setup) (added : Bool) : Edit Bool := do
  emitQueue e
  let s ← get
  let ready ← if s.lines.isEmpty then nextFile e (s.files.length + 1) else pure true
  if !ready then pure false
  else do
    let s ← get
    match s.lines with
    | [] => pure false
    | (line, closed) :: rest => do
      let text := Encoding.decode e.set line
      let gap : Char := if e.mark = 0 then '\x00' else '\n'
      set
        { s with
          lines := rest, number := s.number + 1, closed, replaced := false
          space := if added then s.space ++ gap :: text else text }
      pure true

/-! ### Searching -/

/-- The expression of a query; one that stands for the last one needs a last one. -/
def queried (q : Query) : Edit (Option Search) := do
  match q with
  | some x => do
    modify fun s => { s with last := some x }
    pure (some x)
  | none => pure (← get).last

/-- An expression that stands for the last one although there is none. -/
def noLast : Edit α := do
  Tool.remark "-e expression #1, char 0: no previous regular expression"
  exit 1

def found (q : Query) : Edit Bool := do
  match ← queried q with
  | some x => pure (Regex.occursIn x.style x.regex (← get).space)
  | none => noLast

def isPlace (e : Setup) : Place → Edit Bool
  | .line n => do pure ((← get).number = n)
  | .top => pure false
  | .every first step => do
    let n := (← get).number
    pure (if step = 0 then n = first else first ≤ n && (n - first) % step = 0)
  | .last => isLast e
  | .matching q => found q

/-- Whether the command at a place is for the line. -/
def isSelected (e : Setup) (i : Nat) (x : Selection) : Edit Bool := do
  let setRange (r : Range) : Edit Unit := modify fun s => { s with ranges := s.ranges.setIfInBounds i r }
  let own ← match x.first, x.final with
    | none, _ => pure true
    | some p, none => isPlace e p
    | some p, some b => do
      let n := (← get).number
      let enter : Edit Bool := do
        if !(← isPlace e p) then pure false
        else do
          let line (k : Nat) : Edit Unit := if k ≤ n then setRange .idle else setRange (.upTo k)
          match b with
          | .line k => line k
          | .further k => line (n + k)
          | .multiple k => if k = 0 then line n else line ((n / k + 1) * k)
          | .last => if ← isLast e then setRange .idle else setRange .searching
          | .matching _ => setRange .searching
          pure true
      match ((← get).ranges[i]?).getD .idle with
      | .idle => enter
      | .upTo k =>
        if n < k then pure true
        else do
          setRange .idle
          if n = k then pure true else enter
      | .searching => do
        let passed ← match b with
          | .matching q => found q
          | _ => isLast e
        if passed then setRange .idle
        pure true
  pure (own != x.inverted)

/-! ### Replacing -/

/-- The changes of case that hold for all that follows and for the next letter. -/
structure Casing where
  all : CaseChange := .keep
  one : CaseChange := .keep

/-- A text in the case that is asked for. -/
def Casing.apply (k : Casing) : List Char → List Char × Casing
  | [] => ([], k)
  | c :: rest =>
    let whole (c : Char) : Char := match k.all with
      | .upper => c.toUpper
      | .lower => c.toLower
      | _ => c
    let first := match k.one with
      | .upperOne => c.toUpper
      | .lowerOne => c.toLower
      | _ => whole c
    (first :: rest.map whole, { k with one := .keep })

/-- What a match is replaced by. -/
def replacement (text : Array Char) (start stop : Nat) (groups : Regex.Groups) (pieces : List Piece) : List Char :=
  (pieces.foldl (fun (acc : List Char × Casing) p =>
    let (out, k) := acc
    let add (cs : List Char) : List Char × Casing :=
      let (shown, k) := k.apply cs
      (out ++ shown, k)
    match p with
    | .text cs => add cs
    | .group 0 => add (text.extract start stop).toList
    | .group n =>
      match groups.lookup n with
      | some (a, b) => add (text.extract a b).toList
      | none => (out, k)
    | .change .upperOne => (out, { k with one := .upperOne })
    | .change .lowerOne => (out, { k with one := .lowerOne })
    | .change c => (out, { all := c })) ([], {})).1

/-- Replaces matches from a place on. `count` is the number of the next match, `after` where the last one that was
not empty has ended. -/
def replaceFrom (x : Search) (s : Substitution) (text : Array Char) : Nat → Nat → Nat → Option Nat → Bool →
    List (List Char) → List (List Char) × Bool
  | 0, place, _, _, done, out => ((text.extract place text.size).toList :: out, done)
  | fuel + 1, place, count, after, done, out =>
    let rest (_ : Unit) : List Char := (text.extract place text.size).toList
    match Regex.find? x.style text x.regex place with
    | none => (rest () :: out, done)
    | some (start, stop, groups) =>
      let before := (text.extract place start).toList
      let one : List Char := (text.extract start (start + 1)).toList
      if start = stop && after = some start then
        -- nothing right behind a match is no match
        if text.size ≤ start then (rest () :: out, done)
        else replaceFrom x s text fuel (start + 1) count none done (one :: before :: out)
      else if count < s.number then
        if start = stop then
          if text.size ≤ start then (rest () :: out, done)
          else replaceFrom x s text fuel (start + 1) (count + 1) none done (one :: before :: out)
        else replaceFrom x s text fuel stop (count + 1) (some stop) done
          ((text.extract start stop).toList :: before :: out)
      else
        let new := replacement text start stop groups s.pieces
        if !s.all then ((text.extract stop text.size).toList :: new :: before :: out, true)
        else if start = stop then
          if text.size ≤ start then (new :: before :: out, true)
          else replaceFrom x s text fuel (start + 1) (count + 1) none true (one :: new :: before :: out)
        else replaceFrom x s text fuel stop (count + 1) (some stop) true (new :: before :: out)

/-! ### Commands -/

/-- How the script goes on after a command. -/
inductive Next
  | step (i : Nat)
  /-- The cycle is over; the line is printed unless it is not to be. -/
  | over (prints : Bool)
  /-- The next cycle starts without another line. -/
  | again
  | quit (status : Nat) (prints : Bool)

/-- A line with all that cannot be seen as escapes. -/
def escapedLine (line : List Char) : List (List Char) :=
  (bytesOf line).map fun b =>
    let c := Char.ofNat b.toNat
    match c with
    | '\\' => ['\\', '\\']
    | '\x07' => ['\\', 'a']
    | '\x08' => ['\\', 'b']
    | '\x0c' => ['\\', 'f']
    | '\n' => ['\\', 'n']
    | '\r' => ['\\', 'r']
    | '\t' => ['\\', 't']
    | '\x0b' => ['\\', 'v']
    | c =>
      if 32 ≤ b.toNat && b.toNat < 127 then [c]
      else
        let digits := Nat.toDigits 8 b.toNat
        '\\' :: (List.replicate (3 - digits.length) '0' ++ digits)

/-- Pieces on lines of a width, each but the last one with a backslash at its end. -/
def wrapped (width : Nat) (ending : Char) (pieces : List (List Char)) : List Char :=
  (pieces.foldl (fun (acc : List Char × Nat) p =>
    let (out, column) := acc
    if width ≠ 0 && width - 1 < column + p.length then (out ++ '\\' :: '\n' :: p, p.length)
    else (out ++ p, column + p.length)) ([], 0)).1 ++ ['$', ending]

/-- The first part of a text up to a newline, and the rest after it. -/
def cutLine (cs : List Char) : List Char × Option (List Char) :=
  match Text.cutAt? '\n' cs with
  | some (line, rest) => (line, some rest)
  | none => (cs, none)

def substitute (engine : Engine) (e : Setup) (x : Substitution) : Edit Unit := do
  match ← queried x.query with
  | none => noLast
  | some search => do
    let text := (← get).space.toArray
    let (pieces, done) := replaceFrom search x text (2 * text.size + 3) 0 1 none false []
    if done then
      modify fun s => { s with space := pieces.reverse.flatten, replaced := true }
      if x.runs then
        let bytes ← Tool.outputOf engine (String.ofList (← get).space)
        let all := Encoding.decode e.set bytes
        modify fun s => { s with space := if all.getLast? = some '\n' then all.dropLast else all }
      let s ← get
      if x.prints then emit e "" s.space s.closed
      if let some name := x.target then emit e (targetOf e name) s.space s.closed

/-- The next line of a file that is read line by line. -/
def takeFrom (e : Setup) (name : String) : Edit (Option (List UInt8)) := do
  let s ← get
  let all ← match s.readers.lookup name with
    | some ls => pure ls
    | none => do
      match ← (if name = "/dev/stdin" then .ok <$> takeInput else readFile name : Act _) with
      | .ok bytes => pure (Tool.lines e.mark bytes).1
      | .error _ => pure []
  let keep (ls : List (List UInt8)) : Edit Unit :=
    modify fun s => { s with readers := (name, ls) :: s.readers.filter (·.1 ≠ name) }
  match all with
  | [] => do
    keep []
    pure none
  | l :: rest => do
    keep rest
    pure (some l)

def jump (e : Setup) (label : String) : Next :=
  if label = "" then .over true
  else match e.script.labels.lookup label with
    | some i => .step i
    | none => .over true

/-- Puts something after the line. -/
def enqueue (q : Queued) : Edit Unit := modify fun s => { s with queue := q :: s.queue }

/-- Runs one command. -/
def perform (engine : Engine) (e : Setup) (i : Nat) (x : Step) : Edit Next := do
  let go : Edit Next := pure (.step (i + 1))
  let gap : Char := if e.mark = 0 then '\x00' else '\n'
  let s ← get
  match x.action with
  | .block _ | .nothing => go
  | .number => do
    emitRaw e "" (Tool.ascii (toString s.number ++ "\n"))
    go
  | .append text => do
    if !text.isEmpty then enqueue (.text text)
    go
  | .insert text => do
    if !text.isEmpty then emitRaw e "" (bytesOf text)
    go
  | .change text => do
    let inside : Bool := match (s.ranges[i]?).getD .idle with
      | .idle => false
      | _ => x.selection.final.isSome
    if !inside && !text.isEmpty then emitRaw e "" (bytesOf text)
    pure (.over false)
  | .branch label => pure (jump e label)
  | .branchIf label => do
    if s.replaced then
      set { s with replaced := false }
      pure (jump e label)
    else go
  | .branchUnless label => do
    if s.replaced then
      set { s with replaced := false }
      go
    else pure (jump e label)
  | .delete => pure (.over false)
  | .deleteLine =>
    match cutLine s.space with
    | (_, some rest) => do
      set { s with space := rest }
      pure .again
    | _ => pure (.over false)
  | .run command => do
    if command.isEmpty then
      let bytes ← Tool.outputOf engine (String.ofList s.space)
      let all := Encoding.decode e.set bytes
      modify fun s => { s with space := if all.getLast? = some '\n' then all.dropLast else all }
    else
      let bytes ← Tool.outputOf engine (String.ofList command)
      emitRaw e "" bytes
    go
  | .fileName => do
    emitRaw e "" (Tool.ascii (s.name ++ "\n"))
    go
  | .get => do
    set { s with space := s.held, closed := s.heldClosed }
    go
  | .getAppend => do
    set { s with space := s.space ++ gap :: s.held, closed := s.heldClosed }
    go
  | .hold => do
    set { s with held := s.space, heldClosed := s.closed }
    go
  | .holdAppend => do
    set { s with held := s.held ++ gap :: s.space, heldClosed := s.closed }
    go
  | .list width => do
    emitRaw e "" (bytesOf (wrapped (width.getD e.width) gap (escapedLine s.space)))
    go
  | .next => do
    if ← isOver then pure (.over true)
    else do
      if !e.quiet then emit e "" s.space s.closed
      if ← readLine e false then go else pure (.over false)
  | .nextAppend => do
    if ← isOver then pure (.over true)
    else if ← readLine e true then go
    else pure (.over true)
  | .print => do
    emit e "" s.space s.closed
    go
  | .printLine => do
    match cutLine s.space with
    | (line, some _) => emit e "" line true
    | (line, none) => emit e "" line s.closed
    go
  | .quit status => pure (.quit status true)
  | .quitSilently status => pure (.quit status false)
  | .readFile name => do
    enqueue (.file name)
    go
  | .readLine name => do
    if let some line := ← takeFrom e name then enqueue (.line line)
    go
  | .substitute y => do
    substitute engine e y
    go
  | .write name => do
    emit e (targetOf e name) s.space s.closed
    go
  | .writeLine name => do
    emit e (targetOf e name) (cutLine s.space).1 true
    go
  | .exchange => do
    set { s with space := s.held, held := s.space, closed := s.heldClosed, heldClosed := s.closed }
    go
  | .transliterate pairs => do
    set { s with space := s.space.map fun c => (pairs.lookup c).getD c }
    go
  | .zap => do
    set { s with space := [] }
    go

/-- Runs commands from a place on; the rest of so many rounds is for loops. -/
def runFrom (engine : Engine) (e : Setup) : Nat → Nat → Edit Next
  | 0, _ => throw .stalled
  | fuel + 1, i => do
    match e.script.steps[i]? with
    | none => pure (.over true)
    | some x => do
      let next ← if ← isSelected e i x.selection then perform engine e i x
        else pure (match x.action with
          | .block past => .step past
          | _ => .step (i + 1))
      match next with
      | .step j => runFrom engine e fuel j
      | other => pure other

/-- How many commands may be run for one line. -/
def stepLimit : Nat := 200000

/-- Edits lines, so many of them at most. `fresh` tells whether the first line has yet to be read. -/
def cycles (engine : Engine) (e : Setup) : Nat → Bool → Edit Unit
  | 0, _ => pure ()
  | fuel + 1, fresh => do
    let ready ← if fresh then readLine e false else pure true
    if ready then
      let next ← runFrom engine e stepLimit 0
      let s ← get
      let prints (p : Bool) : Edit Unit := do if p && !e.quiet then emit e "" s.space s.closed
      match next with
      | .over p => do
        prints p
        emitQueue e
        cycles engine e fuel true
      | .again => do
        emitQueue e
        cycles engine e fuel false
      | .quit status p => do
        prints p
        if p then emitQueue e
        modify fun s => { s with status }
      | .step _ => pure ()

/-- A bound on the number of cycles. -/
def cycleLimit : Nat := 1000000

end Editor

namespace Tool
open Editor

def editorOptions : List String :=
  ["n/quiet", "/silent", "e/expression=", "f/file=", "E/regexp-extended", "r", "i/in-place=?", "s/separate",
    "u/unbuffered",
    "z/null-data", "/zero-terminated", "l/line-length=", "b/binary", "/posix", "/debug", "/sandbox", "/follow-symlinks"]

/-- How the editor is called. -/
def editorUsage : String := "Usage: sed [OPTION]... \x7bscript-only-if-no-other-script\x7d [input-file]..."

/-- The parts of the script that are given. -/
def scriptParts (chosen : List Choice) (words : List String) :
    Act (Except String (Option (List (Origin × List Char) × List String))) := do
  let s ← get
  let own := chosen.filter fun c => c.key = "e" || c.key = "f"
  let text (t : String) : List Char := Encoding.decode s.charset (bytesOf t.toList)
  if own.isEmpty then
    match words with
    | [] => return .ok none
    | w :: rest => return .ok (some ([(.argument 1, text w)], rest))
  let mut all : Array (Origin × List Char) := #[]
  let mut number := 0
  for c in own do
    if c.key = "e" then
      number := number + 1
      all := all.push (.argument number, text c.value)
    else
      match ← readSource c.value with
      | .error r => return .error ("couldn't open file " ++ c.value ++ ": " ++ r.text)
      | .ok bytes => all := all.push (.file c.value, Encoding.decode s.charset bytes)
  return .ok (some (all.toList, words))

/-- Opens the files that commands write to. -/
def openTargets (names : List String) : Act (Except String (List (String × Stream))) := do
  let mut all : Array (String × Stream) := #[]
  for name in names do
    match ← openOutput false false name with
    | .ok stream => all := all.push (name, stream)
    | .error r => return .error ("couldn't open file " ++ name ++ ": " ++ r.text)
  return .ok all.toList

def edit : Starting := fun engine arguments => do
  let misused (text : String) : Act Nat := do
    if text ≠ "" then remark text
    say 2 editorUsage
    pure 1
  match readOptions (editorOptions.map Known.ofText) true (arguments.length + 1) arguments with
  | .error text => misused text
  | .ok (chosen, words) => do
    let s ← get
    match ← scriptParts chosen words with
    | .error text => fail text 4
    | .ok none => misused ""
    | .ok (some (parts, words)) =>
      let manner : Editor.Manner :=
        { extended := has chosen "E" || has chosen "r", sandbox := has chosen "sandbox", set := s.charset
          zero := has chosen "z" || has chosen "zero-terminated" }
      match readScript manner parts with
      | .error f => fail f.text f.status
      | .ok script =>
        match ← openTargets script.targets with
        | .error text => fail text 4
        | .ok targets => do
          let inPlace := value? chosen "i"
          let e : Editor.Setup :=
            { script, quiet := has chosen "n" || has chosen "silent" || script.quiet
              separate := has chosen "s" || inPlace.isSome, inPlace
              mark := if has chosen "z" || has chosen "zero-terminated" then 0 else 10, set := s.charset
              width := ((value? chosen "l").bind Text.natural?).getD 70, targets }
          let ranges := script.steps.map fun step => match step.selection.first with
            | some .top => Range.searching
            | _ => .idle
          let start : Editing := { files := if words.isEmpty then ["-"] else words, ranges }
          let act : Edit Unit := do
            cycles engine e cycleLimit true
            finishFile e
          let ((), final) ← act.run start
          write 1 final.out.toList.flatten
          pure final.status

end Tool
end LintRun.Shell
