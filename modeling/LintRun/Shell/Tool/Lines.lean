import LintRun.Shell.Redirection
import LintRun.Shell.Tool.Basic

/-!
# Shell — Programs of the system: lines

Programs that pass lines on: all of them or some, in another order, or with something added.
-/

namespace LintRun.Shell
namespace Tool

/-! ### All lines -/

/-- A byte in marks that can be seen. -/
def visibleByte (tabs : Bool) (b : UInt8) : List UInt8 :=
  let n := b.toNat
  let high : List UInt8 := if 128 ≤ n then [77, 45] else []
  let m := n % 128
  if n = 9 then (if tabs then [94, 73] else [9])
  else if m < 32 then high ++ [94, (m + 64).toUInt8]
  else if m = 127 then high ++ [94, 63]
  else high ++ [m.toUInt8]

def isBlankLine (line : List UInt8) : Bool := line.isEmpty

/-- Lines of which several blank ones in a row have become one. -/
def squeezed (before : Bool) : List (List UInt8) → List (List UInt8)
  | [] => []
  | line :: rest =>
    if line.isEmpty && before then squeezed true rest else line :: squeezed line.isEmpty rest

/-- Files one after another. -/
def concatenate : Plain :=
  withChoices ["A/show-all", "b/number-nonblank", "e", "E/show-ends", "n/number", "s/squeeze-blank", "t",
    "T/show-tabs", "u", "v/show-nonprinting"] fun chosen words => do
    let visible := ["A", "e", "t", "v"].any (has chosen)
    let ends := ["A", "e", "E"].any (has chosen)
    let tabs := ["A", "t", "T"].any (has chosen)
    let nonblank := has chosen "b"
    let numbered := nonblank || has chosen "n"
    let s ← get
    if (streamOf s 1).isNone then fail "standard output: Bad file descriptor"
    else if (words.isEmpty || words.contains "-") && (streamOf s 0).isNone then do
      remark "-: Bad file descriptor"
      fail "closing standard input: Bad file descriptor"
    else if !(visible || ends || tabs || numbered || has chosen "s") then
      eachFile words fun _ bytes => do
        write 1 bytes
        pure 0
    else
      let (bytes, status) ← allBytes words
      let (ls, closed) := lines 10 bytes
      let ls := if has chosen "s" then squeezed false ls else ls
      let count := ls.length
      let shown := ls.zipIdx.foldl (fun (acc : Array (List UInt8) × Nat) (line, i) =>
        let (out, n) := acc
        let isLast := i + 1 = count && !closed
        let own := numbered && !(nonblank && line.isEmpty)
        let front := if own then ascii (Text.padLeft 6 (toString n) ++ "\t") else []
        let body := line.flatMap fun b =>
          if visible then visibleByte tabs b else if tabs && b = 9 then [94, 73] else [b]
        let ending : List UInt8 := if isLast then [] else if ends then [36, 10] else [10]
        (out.push (front ++ body ++ ending), if own then n + 1 else n)) (#[], 1)
      write 1 shown.1.toList.flatten
      pure status

/-! ### The first and the last lines -/

/-- How much of a text is meant: so much from the front or from the end, or all but so much. -/
structure Extent where
  count : Nat
  bytes : Bool
  /-- The count is from the other side. -/
  reversed : Bool

/-- The first bytes or lines. -/
def Extent.front (x : Extent) (bytes : List UInt8) : List UInt8 :=
  if x.bytes then bytes.take (if x.reversed then bytes.length - x.count else x.count)
  else
    let (ls, closed) := lines 10 bytes
    let n := if x.reversed then ls.length - x.count else x.count
    if ls.length ≤ n then (if closed then unlines 10 ls else bytes) else unlines 10 (ls.take n)

/-- The last bytes or lines. -/
def Extent.back (x : Extent) (bytes : List UInt8) : List UInt8 :=
  if x.bytes then bytes.drop (if x.reversed then x.count - 1 else bytes.length - x.count)
  else
    let (ls, closed) := lines 10 bytes
    let kept := ls.drop (if x.reversed then x.count - 1 else ls.length - x.count)
    let all := unlines 10 kept
    if closed then all else all.dropLast

/-- Files of which only an extent is shown; headers tell their names. -/
def showExtents (chosen : List Choice) (words : List String) (part : List UInt8 → List UInt8) : Act Nat := do
  let files := if words.isEmpty then ["-"] else words
  let headed := !has chosen "q" && (has chosen "v" || 1 < files.length)
  let (_, status) ← files.foldlM (fun (acc : Bool × Nat) path => do
    let (shown, status) := acc
    let s ← get
    let header (shown : Bool) : Act Unit := do
      if headed then
        put 1 ((if shown then "\n" else "") ++ "==> " ++ (if path = "-" then "standard input" else path) ++ " <==\n")
    match ← readSource path with
    | .ok bytes => do
      header shown
      write 1 (part bytes)
      pure (true, status)
    | .error .isDirectory => do
      header shown
      remark ("error reading " ++ quotedName s path ++ ": " ++ Refusal.isDirectory.text)
      pure (true, 1)
    | .error r => do
      remark ("cannot open " ++ quotedName s path ++ " for reading: " ++ r.text)
      pure (shown, 1)) (false, 0)
  pure status

/-- The old way to give a number, as an option of its own. -/
def withOldNumber (plusToo : Bool) : List String → List String
  | a :: rest =>
    let cs := a.toList
    let digits := (cs.drop 1).takeWhile Text.isAsciiDigit
    let after := cs.drop (1 + digits.length)
    if digits.isEmpty || !(cs.head? = some '-' || (plusToo && cs.head? = some '+')) then a :: rest
    else
      let sign := if cs.head? = some '+' then "+" else ""
      let letter := if after.contains 'c' then "-c" else "-n"
      let others := after.filter fun c => c ≠ 'c' && c ≠ 'n' && c ≠ 'l'
      letter :: (sign ++ String.ofList digits) :: (if others.isEmpty then rest
        else ("-" ++ String.ofList others) :: rest)
  | [] => []

/-- The extent that the options ask for. -/
def extentOf? (chosen : List Choice) (mark : String) : Except String Extent :=
  let bytes := lastOf? chosen ["c", "n"] = some "c"
  let text := (value? chosen (if bytes then "c" else "n")).getD "10"
  let signed := text.startsWith mark
  let plain := if text.startsWith "+" || text.startsWith "-" then (text.drop 1).toString else text
  match sized? plain with
  | some n => .ok ⟨n, bytes, signed⟩
  | none => .error ("invalid number of " ++ if bytes then "bytes" else "lines")

def head : Plain := fun arguments =>
  withChoices ["c/bytes=", "n/lines=", "q/quiet", "/silent", "v/verbose", "z/zero-terminated"] (fun chosen words => do
    match extentOf? chosen "-" with
    | .error text => fail (text ++ ": " ++ quotedFor (← get) ((value? chosen "n").getD ((value? chosen "c").getD "")))
    | .ok x => do
      -- in a file, what was not needed stays there
      let s ← get
      let isRegular := match streamOf s 0 with
        | some (.source n) => (s.regular.lookup n).isSome
        | _ => false
      let input := inputOf s 0
      let status ← showExtents chosen words x.front
      if isRegular && (words.isEmpty || words = ["-"]) then leaveInput 0 (input.drop (x.front input).length)
      pure status) 1 true (withOldNumber false arguments)

def tail : Plain := fun arguments =>
  withChoices ["c/bytes=", "n/lines=", "f/follow=?", "F", "q/quiet", "/silent", "v/verbose", "s/sleep-interval=",
    "/pid=",
    "/retry", "z/zero-terminated"] (fun chosen words => do
    match extentOf? chosen "+" with
    | .error text => fail (text ++ ": " ++ quotedFor (← get) ((value? chosen "n").getD ((value? chosen "c").getD "")))
    | .ok x => do
      let status ← showExtents chosen words x.back
      if has chosen "f" || has chosen "F" then throw .stalled
      pure status) 1 true (withOldNumber true arguments)

/-! ### Counting -/

/-- Counts of a text: lines, words, characters, bytes, and the width of the longest line. -/
structure Counts where
  lines : Nat := 0
  words : Nat := 0
  chars : Nat := 0
  bytes : Nat := 0
  widest : Nat := 0

def Counts.add (a b : Counts) : Counts :=
  ⟨a.lines + b.lines, a.words + b.words, a.chars + b.chars, a.bytes + b.bytes, max a.widest b.widest⟩

def Counts.of (set : Charset) (bytes : List UInt8) : Counts :=
  let text := Encoding.decode set bytes
  let words := text.foldl (fun (acc : Nat × Bool) c =>
    let blank := Text.isPlainBlank c
    (if !blank && !acc.2 then acc.1 + 1 else acc.1, !blank)) (0, false)
  let widest := (Text.splitAt '\n' text).foldl (fun m line =>
    max m (line.foldl (fun w c => if c = '\t' then (w / 8 + 1) * 8 else if c.toNat < 32 then w else w + 1) 0)) 0
  { lines := bytes.count 10, words := words.1, chars := (text.filter fun c => (byte? c).isNone || set = .ascii).length
    bytes := bytes.length, widest }
where
  byte? := Encoding.byte?

def count : Plain :=
  withChoices ["c/bytes", "m/chars", "l/lines", "L/max-line-length", "w/words", "/total=", "/files0-from="]
    fun chosen words => do
    let s ← get
    let usual := ! ["c", "m", "l", "L", "w"].any (has chosen)
    let on (key : String) : Bool := has chosen key || (usual && (key = "c" || key = "l" || key = "w"))
    let parts (c : Counts) : List Nat :=
      [(on "l", c.lines), (on "w", c.words), (on "m", c.chars), (on "c", c.bytes), (on "L", c.widest)].filterMap
        fun (b, n) => if b then some n else none
    let files := if words.isEmpty then ["-"] else words
    let size? (path : String) : Option (Option Nat) :=
      if path = "-" then
        match streamOf s 0 with
        | some (.source n) => some (s.regular.lookup n)
        | _ => some none
      else match fileKind? s.tree path with
        | some (.file size _) => some (some size)
        | some _ => some none
        | none => none
    let sizes := files.filterMap size?
    let total := (sizes.filterMap id).foldl (· + ·) 0
    let width :=
      if files.length = 1 && (parts {}).length = 1 then 1
      else if sizes.any (·.isNone) then max 7 (toString total).length
      else max 1 (toString total).length
    let row (c : Counts) (name : String) : Act Unit :=
      say 1 (Text.joinWith " " ((parts c).map fun n => Text.padLeft width (toString n)) ++
        if name = "" then "" else " " ++ name)
    let onlyTotal := value? chosen "total" = some "only"
    let (sum, status) ← files.foldlM (fun (acc : Counts × Nat) path => do
      let (sum, status) := acc
      match ← readSource path with
      | .ok bytes => do
        let c := Counts.of s.charset bytes
        if !onlyTotal then row c (if words.isEmpty then "" else path)
        pure (sum.add c, status)
      | .error r => do
        remark (shownName s path ++ ": " ++ r.text)
        if r = .isDirectory && !onlyTotal then row {} path
        pure (sum, 1)) (({} : Counts), 0)
    if onlyTotal then say 1 (Text.joinWith " " ((parts sum).map toString))
    else if (1 < files.length || value? chosen "total" = some "always") && value? chosen "total" ≠ some "never" then
      row sum "total"
    pure status

/-! ### Other orders -/

/-- The last records first, each with the mark that ends it. -/
def backwards : Plain :=
  withChoices ["b/before", "r/regex", "s/separator="] fun chosen words => do
    let mark := match value? chosen "s" with
      | some t => (ascii t).headD 10
      | none => 10
    let files := if words.isEmpty then ["-"] else words
    files.foldlM (fun status path => do
      match ← readSource path with
      | .ok bytes => do
        let (ls, closed) := lines mark bytes
        let records := match closed, ls.reverse with
          | true, all => all.map (· ++ [mark])
          | false, last :: rest => last :: rest.map (· ++ [mark])
          | false, [] => []
        write 1 records.flatten
        pure status
      | .error r => do
        remark ("failed to open " ++ quotedName (← get) path ++ " for reading: " ++ r.text)
        pure 1) 0

/-- The characters of each line in the other order. -/
def reversed : Plain :=
  withChoices [] fun _ words =>
    eachFile words fun _ bytes => do
      let set := (← get).charset
      let (ls, closed) := lines 10 bytes
      let out := unlines 10 (ls.map fun l => bytesOf (Encoding.decode set l).reverse)
      write 1 (if closed then out else out.dropLast)
      pure 0

/-! ### Numbers in front -/

def number : Plain :=
  withChoices ["b/body-numbering=", "d/section-delimiter=", "f/footer-numbering=", "h/header-numbering=",
    "i/line-increment=", "l/join-blank-lines=", "n/number-format=", "p/no-renumber", "s/number-separator=",
    "v/starting-line-number=", "w/number-width="] fun chosen words => do
    let style := (value? chosen "b").getD "t"
    let format := (value? chosen "n").getD "rn"
    if ! ["a", "t", "n"].contains style then
      misuse ("invalid body numbering style: " ++ quotedFor (← get) style)
    else
      let width := ((value? chosen "w").bind Text.natural?).getD 6
      let step := ((value? chosen "i").bind Text.natural?).getD 1
      let start := ((value? chosen "v").bind Text.natural?).getD 1
      let separator := (value? chosen "s").getD "\t"
      let (bytes, status) ← allBytes words
      let (ls, _) := lines 10 bytes
      let shown := ls.foldl (fun (acc : Array (List UInt8) × Nat) line =>
        let (out, n) := acc
        let own := style = "a" || (style = "t" && !line.isEmpty)
        let digits := toString n
        let front := if own then
            (match format with
              | "ln" => Text.padRight width digits
              | "rz" => String.ofList (List.replicate (width - digits.length) '0') ++ digits
              | _ => Text.padLeft width digits) ++ separator
          else String.ofList (List.replicate (width + separator.utf8ByteSize) ' ')
        (out.push (ascii front ++ line ++ [10]), if own then n + step else n)) (#[], start)
      write 1 shown.1.toList.flatten
      pure status

/-! ### Side by side -/

/-- The separators of a list; nothing may stand between two lines. -/
def separatorsOf : List Char → List (List UInt8)
  | [] => []
  | '\\' :: c :: rest =>
    (match c with
      | 'n' => [10]
      | 't' => [9]
      | '0' => []
      | 'b' => [8]
      | 'f' => [12]
      | 'r' => [13]
      | 'v' => [11]
      | c => bytesOf [c]) :: separatorsOf rest
  | c :: rest => bytesOf [c] :: separatorsOf rest

/-- Texts with separators that take turns. -/
def joinTurning (separators : List (List UInt8)) (parts : List (List UInt8)) : List UInt8 :=
  let n := max separators.length 1
  let rows := parts.zipIdx.map fun (p, i) =>
    if i + 1 = parts.length then p else p ++ separators.getD (i % n) []
  rows.flatten

/-- Rows of lines that are taken from several columns, as long as one has lines. -/
def rowsOf : Nat → List (List (List UInt8)) → List (List (List UInt8))
  | 0, _ => []
  | fuel + 1, columns =>
    if columns.all List.isEmpty then []
    else columns.map (fun c => c.headD []) :: rowsOf fuel (columns.map (List.drop 1))

/-- Deals the lines of the input out to the columns that are the input. -/
def dealt (own : List (List UInt8)) (count : Nat) (i : Nat) : List (List UInt8) :=
  (own.zipIdx.filter fun (_, k) => k % max count 1 = i).map Prod.fst

def paste : Plain :=
  withChoices ["d/delimiters=", "s/serial", "z/zero-terminated"] fun chosen words => do
    let separators := match value? chosen "d" with
      | some t => separatorsOf t.toList
      | none => [[9]]
    let separators := if separators.isEmpty then [[]] else separators
    let files := if words.isEmpty then ["-"] else words
    let s ← get
    if has chosen "s" then
      eachFile words fun _ bytes => do
        let (ls, _) := lines 10 bytes
        write 1 (joinTurning separators ls ++ [10])
        pure 0
    else
      let inputs := (files.filter (· = "-")).length
      let own := if inputs = 0 then [] else (lines 10 (inputOf s 0)).1
      if inputs ≠ 0 then leaveInput 0 []
      let rec gather : List String → Nat → Act (Except String (List (List (List UInt8))))
        | [], _ => pure (.ok [])
        | "-" :: rest, i => do
          let more ← gather rest (i + 1)
          pure (more.map fun cs => dealt own inputs i :: cs)
        | path :: rest, i => do
          match ← readFile path with
          | .ok bytes => do
            let more ← gather rest i
            pure (more.map fun cs => (lines 10 bytes).1 :: cs)
          | .error r => pure (.error (shownName s path ++ ": " ++ r.text))
      match ← gather files 0 with
      | .error text => fail text
      | .ok columns => do
        let bound := columns.foldl (fun m c => max m c.length) 0
        write 1 ((rowsOf (bound + 1) columns).flatMap fun row => joinTurning separators row ++ [10])
        pure 0

/-! ### Parts of lines -/

/-- The first and the last place of a part; it may go on to the end. -/
abbrev Span := Nat × Option Nat

/-- Why a list of places makes no sense. -/
inductive SpanFault
  | zero
  | decreasing
  | endless (text : String)
  | invalid (text : String)

/-- A list of places. -/
def spansOf (text : String) : Except SpanFault (List Span) :=
  let parts := (Text.splitAt ',' (text.toList.map fun c => if c = ' ' || c = '\t' then ',' else c)).map String.ofList
  parts.mapM fun p =>
    match (Text.splitAt '-' p.toList).map String.ofList with
    | [a] =>
      match Text.natural? a with
      | some 0 => .error .zero
      | some n => .ok (n, some n)
      | none => if a = "" then .error .zero else .error (.invalid a)
    | ["", ""] => .error (.endless p)
    | [a, b] =>
      match (if a = "" then some 1 else Text.natural? a),
        (if b = "" then some none else (Text.natural? b).map some) with
      | some 0, _ => .error .zero
      | some n, some (some m) => if m < n then .error .decreasing else .ok (n, some m)
      | some n, some none => .ok (n, none)
      | _, _ => .error (.invalid p)
    | _ => .error (.invalid p)

def inSpans (spans : List Span) (n : Nat) : Bool := spans.any fun (a, b) => a ≤ n && b.all (n ≤ ·)

/-- Whether a new part of a list of places starts at a place. -/
def startsSpan (spans : List Span) (n : Nat) : Bool :=
  spans.any (fun (a, _) => a = n) && !spans.any fun (a, b) => a < n && b.all fun m => n ≤ m

/-- The bytes of a line at some places; a separator may stand between the parts. -/
def cutBytes (spans : List Span) (complement : Bool) (separator : Option (List UInt8)) (line : List UInt8) :
    List UInt8 :=
  let (out, _, _) := line.zipIdx.foldl (fun (acc : Array UInt8 × Bool × Bool) (b, i) =>
    let (out, started, before) := acc
    if inSpans spans (i + 1) != complement then
      let gap := started && (!before || (!complement && startsSpan spans (i + 1)))
      let out := if gap then (separator.getD []).foldl Array.push out else out
      (out.push b, true, true)
    else (out, started, false)) (#[], false, false)
  out.toList

def cut : Plain :=
  withChoices ["b/bytes=", "c/characters=", "f/fields=", "d/delimiter=", "n", "s/only-delimited", "/complement",
    "/output-delimiter=", "z/zero-terminated"] fun chosen words => do
    let s ← get
    let kinds := chosen.filter fun c => ["b", "c", "f"].contains c.key
    let mark : UInt8 := if has chosen "z" then 0 else 10
    match kinds with
    | [] => misuse "you must specify a list of bytes, characters, or fields"
    | _ :: _ :: _ => misuse "only one list may be specified"
    | [list] =>
      let byFields := list.key = "f"
      let delimiter := (value? chosen "d").map fun t => if t = "" then [0] else ascii t
      if (delimiter.map List.length).any (1 < ·) then misuse "the delimiter must be a single character"
      else if !byFields && delimiter.isSome then
        misuse "an input delimiter may be specified only when operating on fields"
      else if !byFields && has chosen "s" then
        misuse "suppressing non-delimited lines makes sense\n\tonly when operating on fields"
      else match spansOf list.value with
        | .error f =>
          misuse (match f with
            | .zero => if byFields then "fields are numbered from 1" else "byte/character positions are numbered from 1"
            | .decreasing => "invalid decreasing range"
            | .endless t => "invalid range with no endpoint: " ++ t
            | .invalid t =>
              (if byFields then "invalid field value " else "invalid byte/character position ") ++ quotedFor s t)
        | .ok spans =>
          let complement := has chosen "complement"
          let out := (value? chosen "output-delimiter").map ascii
          let d := (delimiter.getD [9]).headD 9
          let one (line : List UInt8) : Option (List UInt8) :=
            if byFields then
              let fields := Text.splitAt d line
              if fields.length ≤ 1 then (if has chosen "s" then none else some line)
              else
                let kept := (fields.zipIdx.filter fun (_, i) => inSpans spans (i + 1) != complement).map Prod.fst
                some ((kept.intersperse (out.getD [d])).flatten)
            else some (cutBytes spans complement out line)
          eachFile words fun _ bytes => do
            write 1 (unlines mark ((lines mark bytes).1.filterMap one))
            pure 0

/-! ### Widths -/

/-- The column after a character. -/
def columnAfter (column : Nat) (b : UInt8) : Nat :=
  if b = 9 then (column / 8 + 1) * 8 else if b = 8 then column - 1 else if b = 13 then 0 else column + 1

/-- A line in pieces of some width, which may end behind blanks. -/
def foldLine (width : Nat) (byBytes atBlanks : Bool) : Nat → List UInt8 → List (List UInt8)
  | 0, line => [line]
  | fuel + 1, line =>
    let rec reach (column taken : Nat) : List UInt8 → Nat
      | [] => taken
      | b :: rest =>
        let next := if byBytes then column + 1 else columnAfter column b
        if width < next && taken ≠ 0 then taken else reach next (taken + 1) rest
    let n := reach 0 0 line
    if line.length ≤ n then [line]
    else
      let piece := line.take n
      let blank := piece.reverse.findIdx? fun b => b = 32 || b = 9
      let n := match atBlanks, blank with
        | true, some k => if k < n then n - k else n
        | _, _ => n
      line.take n :: foldLine width byBytes atBlanks fuel (line.drop n)

def fold : Plain := fun arguments =>
  let arguments := match arguments with
    | a :: rest => if a.startsWith "-" && (Text.natural? (a.drop 1).toString).isSome then
        "-w" :: (a.drop 1).toString :: rest else a :: rest
    | [] => []
  withChoices ["b/bytes", "s/spaces", "w/width="] (fun chosen words => do
    let text := (value? chosen "w").getD "80"
    match Text.natural? text with
    | none | some 0 => fail ("invalid number of columns: " ++ quotedFor (← get) text)
    | some width =>
      eachFile words fun _ bytes => do
        let (ls, closed) := lines 10 bytes
        let out := unlines 10 (ls.flatMap fun l => foldLine width (has chosen "b") (has chosen "s") (l.length + 1) l)
        write 1 (if closed then out else out.dropLast)
        pure 0) 1 true arguments

/-- Blanks in the place of tabulators. -/
def expandLine (stop : Nat) (front : Bool) (line : List UInt8) : List UInt8 :=
  let (out, _, _) := line.foldl (fun (acc : Array UInt8 × Nat × Bool) b =>
    let (out, column, isOpen) := acc
    if b = 9 && isOpen then
      let next := (column / stop + 1) * stop
      ((List.replicate (next - column) 32).foldl Array.push out, next, isOpen)
    else (out.push b, column + 1, isOpen && (!front || b = 32))) (#[], 0, true)
  out.toList

/-- Tabulators in the place of blanks. -/
def unexpandLine (stop : Nat) (all : Bool) (line : List UInt8) : List UInt8 :=
  let rec go (column : Nat) (waiting : Nat) (isOpen : Bool) : List UInt8 → List UInt8
    | [] => List.replicate waiting 32
    | b :: rest =>
      if isOpen && b = 32 then
        if (column + 1) % stop = 0 then
          if waiting = 0 && rest.head? ≠ some 32 && rest.head? ≠ some 9 then 32 :: go (column + 1) 0 isOpen rest
          else 9 :: go (column + 1) 0 isOpen rest
        else go (column + 1) (waiting + 1) isOpen rest
      else if isOpen && b = 9 then 9 :: go ((column / stop + 1) * stop) 0 isOpen rest
      else List.replicate waiting 32 ++ b :: go (column + 1) 0 all rest
  go 0 0 true line

def respaced (change : Nat → List Choice → List UInt8 → List UInt8) : Plain :=
  withChoices ["t/tabs=", "i/initial", "a/all", "/first-only"] fun chosen words => do
    let stop := ((value? chosen "t").bind Text.natural?).getD 8
    eachFile words fun _ bytes => do
      let (ls, closed) := lines 10 bytes
      let out := unlines 10 (ls.map (change (max stop 1) chosen))
      write 1 (if closed then out else out.dropLast)
      pure 0

def expand : Plain := respaced fun stop chosen => expandLine stop (has chosen "i")
def unexpand : Plain := respaced fun stop chosen => unexpandLine stop (has chosen "a" || has chosen "t")

/-! ### Copies -/

/-- Writes the input to the output and to files. -/
def tee : Plain :=
  withChoices ["a/append", "i/ignore-interrupts", "p", "/output-error=?"] fun chosen words => do
    let bytes ← takeInput
    let (streams, status) ← words.foldlM (fun (acc : List Stream × Nat) path => do
      match ← openOutput (has chosen "a") false path with
      | .ok stream => pure (acc.1 ++ [stream], acc.2)
      | .error r => do
        remark (shownName (← get) path ++ ": " ++ r.text)
        pure (acc.1, 1)) ([], 0)
    streams.forM fun stream => writeTo stream bytes
    write 1 bytes
    pure status

/-! ### Comparing -/

/-- Tells where two files differ. -/
def compare : Plain :=
  withChoices ["b/print-bytes", "l/verbose", "s/quiet", "/silent", "n/bytes=",
    "i/ignore-initial="] (fun chosen words => do
    let s ← get
    let silent := has chosen "s" || has chosen "silent"
    match words with
    | [] => do
      remark ("missing operand after " ++ quotedFor s s.name)
      misuse "" 2
    | a :: rest =>
      let b := rest.headD "-"
      match ← readSource a with
      | .error r => if silent then pure 2 else fail (shownName s a ++ ": " ++ r.text) 2
      | .ok x =>
        match ← readSource b with
        | .error r => if silent then pure 2 else fail (shownName s b ++ ": " ++ r.text) 2
        | .ok y =>
          let differing := (x.zip y).zipIdx.filter fun ((c, d), _) => c ≠ d
          let common := min x.length y.length
          let ended : Option (String × List UInt8) :=
            if x.length < y.length then some (a, x) else if y.length < x.length then some (b, y) else none
          if has chosen "l" then
            if let (some (path, _), false) := (ended, silent) then
              remark ("EOF on " ++ path ++ if common = 0 then " which is empty" else " after byte " ++ toString common)
            let width := (toString (max 1 (max x.length y.length))).length
            let octal (c : UInt8) : String := Text.padLeft 3 (String.ofList (Nat.toDigits 8 c.toNat))
            differing.forM fun ((c, d), i) => say 1 (Text.padLeft width (toString (i + 1)) ++ " " ++ octal c ++ " " ++
              octal d)
            pure (if differing.isEmpty && ended.isNone then 0 else 1)
          else match differing.head?, ended with
            | some (_, i), _ => do
              if !silent then
                let line := (x.take i).count 10 + 1
                say 1 (a ++ " " ++ b ++ " differ: char " ++ toString (i + 1) ++ ", line " ++ toString line)
              pure 1
            | none, some (path, bytes) => do
              if !silent then
                let newlines := bytes.count 10
                let place := if bytes.getLast? = some 10 then ", line " ++ toString newlines
                  else ", in line " ++ toString (newlines + 1)
                remark ("EOF on " ++ path ++
                  if bytes.isEmpty then " which is empty" else " after byte " ++ toString common ++ place)
              pure 1
            | none, none => pure 0) 2

end Tool
end LintRun.Shell
