import LintRun.Shell.Pattern
import LintRun.Shell.Regex
import LintRun.Shell.Tool.Basic

/-!
# Shell — Programs of the system: lines that match

* `LineTest`: what a line is compared with.
* `Sieve`: which lines are shown, and with what around them.
* `filterLines`: shows the lines of files that match a pattern.
-/

namespace LintRun.Shell
namespace Tool

/-! ### Comparing -/

/-- What a line is compared with: patterns in one style; the match may have to be a word or the whole line. -/
structure LineTest where
  style : RegexStyle
  patterns : List Regex
  word : Bool := false
  whole : Bool := false

namespace LineTest

/-- The end of the longest match that starts at a place. -/
def endAt? (t : LineTest) (chars : Array Char) (start : Nat) : Option Nat :=
  let isWord (c : Option Char) : Bool := c.any Text.isNameChar
  let fits (stop : Nat) : Bool :=
    (!t.whole || (start = 0 && stop = chars.size)) &&
      (!t.word || !((start ≠ 0 && isWord chars[start - 1]?) || isWord chars[stop]?))
  t.patterns.foldl (fun best r =>
    match (Regex.ends t.style chars r start []).find? fits with
    | some stop => if best.any (stop ≤ ·) then best else some stop
    | none => best) none

/-- The first match from a place on. -/
def find? (t : LineTest) (line : Array Char) (start : Nat) : Option (Nat × Nat) :=
  Pattern.atFirst? (fun p => (t.endAt? line p).map fun stop => (p, stop)) (line.size + 1 - start) start

/-- All matches that are not empty, one after another. -/
def all (t : LineTest) (line : Array Char) : Nat → Nat → List (Nat × Nat)
  | 0, _ => []
  | fuel + 1, place =>
    match t.find? line place with
    | none => []
    | some (start, stop) =>
      if stop = start then (if line.size ≤ start then [] else t.all line fuel (start + 1))
      else (start, stop) :: t.all line fuel stop

end LineTest

/-! ### Showing -/

/-- Which lines are shown, and with what around them. -/
structure Sieve where
  inverted : Bool := false
  /-- Only the parts that match. -/
  parts : Bool := false
  numbered : Bool := false
  placed : Bool := false
  named : Bool := false
  colored : Bool := false
  tabbed : Bool := false
  /-- A name ends in a NUL. -/
  closedNames : Bool := false
  before : Nat := 0
  after : Nat := 0
  context : Bool := false
  separator : Option String := some "--"
  most : Option Nat := none
  mark : UInt8 := 10

/-- The text between two marks that set a color. -/
def painted (on : Bool) (code : String) (bytes : List UInt8) : List UInt8 :=
  if on && !bytes.isEmpty then ascii ("\x1b[" ++ code ++ "m\x1b[K") ++ bytes ++ ascii "\x1b[m\x1b[K" else bytes

namespace Sieve

/-- What stands in front of a line: the name of its file, its number, and its place. -/
def front (v : Sieve) (name : String) (number place : Nat) (gap : String) : List UInt8 :=
  let sign := painted v.colored "36" (ascii gap)
  let nameText := painted v.colored "35" (ascii name) ++ if v.closedNames then [0] else sign
  let number := if v.numbered then painted v.colored "32" (ascii (toString number)) ++ sign else []
  let place := if v.placed then painted v.colored "32" (ascii (toString place)) ++ sign else []
  let all := (if v.named then nameText else []) ++ number ++ place
  if v.tabbed && !all.isEmpty then all ++ [9] else all

/-- A line with its matches in color. -/
def body (v : Sieve) (t : LineTest) (line : List UInt8) (text : Array Char) : List UInt8 :=
  if !v.colored || v.inverted then line
  else
    let spans := t.all text (text.size + 2) 0
    let (out, last) := spans.foldl (fun (acc : List UInt8 × Nat) (a, b) =>
      (acc.1 ++ bytesOf (text.extract acc.2 a).toList ++ painted true "01;31" (bytesOf (text.extract a b).toList),
        b)) ([], 0)
    out ++ bytesOf (text.extract last text.size).toList

/-- Where the showing of lines is. -/
structure Progress where
  out : Array (List UInt8) := #[]
  /-- How many lines have been chosen. -/
  chosen : Nat := 0
  /-- How many lines after a chosen one are still to be shown. -/
  pending : Nat := 0
  /-- The number of the line after the last one that was shown. -/
  next : Nat := 0
  /-- A group of lines has been shown. -/
  shown : Bool := false
  place : Nat := 0

/-- The lines of a file that are shown, and how many were chosen. -/
def lines (v : Sieve) (t : LineTest) (set : Charset) (name : String) (shown : Bool) (ls : List (List UInt8)) :
    Progress :=
  let all := ls.toArray
  let places := (ls.foldl (fun (acc : Array Nat × Nat) l => (acc.1.push acc.2, acc.2 + l.length + 1)) (#[], 0)).1
  ls.zipIdx.foldl (fun (p : Progress) (line, i) =>
    if v.most.any (· ≤ p.chosen) && p.pending = 0 then p
    else
      let text := (Encoding.decode set line).toArray
      let full := v.most.any (· ≤ p.chosen)
      let hit := !full && ((t.find? text 0).isSome != v.inverted)
      let row (i : Nat) (gap : String) (content : List UInt8) : List UInt8 :=
        v.front name (i + 1) (places.getD i 0) gap ++ content ++ [v.mark]
      if hit then
        let start := max p.next (i - v.before)
        let apart := v.context && p.shown && (p.next < start || p.next = 0)
        let gapLine : List UInt8 := match v.separator with
          | some text => if apart then painted v.colored "36" (ascii text) ++ [v.mark] else []
          | none => []
        let ahead := (List.range (i - start)).map fun k => row (start + k) "-" (all.getD (start + k) [])
        let own : List UInt8 :=
          if v.parts then
            if v.inverted then []
            else (t.all text (text.size + 2) 0).flatMap fun (a, b) =>
              let place := (places.getD i 0) + (bytesOf (text.extract 0 a).toList).length
              v.front name (i + 1) place ":" ++ painted v.colored "01;31" (bytesOf (text.extract a b).toList) ++
                [v.mark]
          else row i ":" (v.body t line text)
        let aheadRows := if v.parts then [] else ahead.flatten
        { p with
          out := p.out.push (gapLine ++ aheadRows ++ own), chosen := p.chosen + 1, pending := v.after, next := i + 1
          shown := true }
      else if 0 < p.pending then
        { p with
          out := if v.parts then p.out else p.out.push (row i "-" line), pending := p.pending - 1, next := i + 1 }
      else p) { shown }

end Sieve

/-! ### Patterns -/

/-- How patterns are written. -/
inductive PatternKind
  | basic
  | extended
  | fixed
  | perl
  deriving DecidableEq, Repr

/-- A text as the expression that matches nothing else. -/
def literal (cs : List Char) : Regex := cs.foldr (fun c r => .both (.char c) r) .nothing

/-- What is said of an operator that a pattern starts with. -/
def startRemark? (kind : PatternKind) (pattern : List Char) : Option String :=
  let rest := if pattern.head? = some '^' then pattern.drop 1 else pattern
  match kind, rest with
  | .extended, c :: after =>
    if "*+?".toList.contains c then some (String.singleton c ++ " at start of expression")
    else if c = '\x7b' && ((Regex.readBounds true true after).toOption.bind id).isSome then
      some "{...} at start of expression"
    else none
  | _, _ => none

/-- The expressions of patterns, or what is wrong with one of them. -/
def expressions (kind : PatternKind) (style : RegexStyle) (patterns : List (List Char)) :
    Except RegexFault (List Regex) :=
  patterns.mapM fun p => if kind = .fixed then .ok (literal p) else Regex.read style p

/-! ### Files -/

/-- The files below a directory, by their paths. -/
def filesBelow (skip : String → Bool) : Nat → String → Node → List String
  | 0, _, _ => []
  | depth + 1, path, node =>
    match node with
    | .file _ _ => [path]
    | .link _ => []
    | .directory entries =>
      entries.flatMap fun (name, child) =>
        if child.isDirectory && skip name then []
        else filesBelow skip depth (if path = "" then name else if path.endsWith "/" then path ++ name else path ++
          "/" ++ name) child

/-- Whether a name matches a pattern for file names. -/
def nameMatches (fold : Bool) (pattern name : String) : Bool :=
  Pattern.accepts fold (Pattern.ofGlyphs false (pattern.toList.map fun c => ⟨c, false⟩)) name.toList

/-- Options by digits alone are a number of lines around. -/
def digitsOf? (chosen : List Choice) : Option Nat :=
  let ds := chosen.filterMap fun c => match c.key.toList with
    | [d] => if Text.isAsciiDigit d then some d else none
    | _ => none
  if ds.isEmpty then none else some (Text.numberOf 10 ds)

def filterOptions : List String :=
  ["E/extended-regexp", "F/fixed-strings", "G/basic-regexp", "P/perl-regexp", "e/regexp=", "f/file=", "i/ignore-case",
    "y",
    "/no-ignore-case", "v/invert-match", "w/word-regexp", "x/line-regexp", "c/count", "l/files-with-matches",
    "L/files-without-match", "n/line-number", "o/only-matching", "q/quiet", "/silent", "s/no-messages", "h/no-filename",
    "H/with-filename", "r/recursive", "R/dereference-recursive", "A/after-context=", "B/before-context=", "C/context=",
    "m/max-count=", "b/byte-offset", "a/text", "I", "z/null-data", "Z/null", "T/initial-tab", "u", "U/binary",
    "d/directories=",
    "D/devices=", "/include=", "/exclude=", "/exclude-dir=", "/exclude-from=", "/label=", "/line-buffered", "/color=?",
    "/colour=?", "/binary-files=", "/group-separator=", "/no-group-separator"] ++
    (List.range 10).map toString

/-- A number among the options, or the option's text if it is none. -/
def amountOf (chosen : List Choice) (key : String) : Except String (Option Nat) :=
  match value? chosen key with
  | none => .ok none
  | some text =>
    match Text.natural? text with
    | some n => .ok (some n)
    | none => .error text

/-- What is done with each file. -/
structure Search where
  test : LineTest
  sieve : Sieve
  chosen : List Choice

namespace Search

/-- Goes through one file. The answer is whether anything was found, and whether lines have been shown. -/
def file (x : Search) (shown : Bool) (name : String) (bytes : List UInt8) : Act (Bool × Bool) := do
  let s ← get
  let has := has x.chosen
  let title := if name = "-" then (value? x.chosen "label").getD "(standard input)" else name
  let binary := bytes.contains 0 && !has "a" && !has "z" && value? x.chosen "binary-files" ≠ some "text"
  if binary && (has "I" || value? x.chosen "binary-files" = some "without-match") then return (false, shown)
  let p := x.sieve.lines x.test s.charset title shown (lines x.sieve.mark bytes).1
  let found := 0 < p.chosen
  let ending : List UInt8 := if x.sieve.closedNames then [0] else [10]
  let nameText := painted x.sieve.colored "35" (ascii title)
  if has "q" || has "silent" then return (found, shown)
  if has "L" || has "l" then
    if (lastOf? x.chosen ["L", "l"] = some "l") = found then write 1 (nameText ++ ending)
    return (found, shown)
  if has "c" then
    let front := if x.sieve.named then
        nameText ++ if x.sieve.closedNames then [0] else painted x.sieve.colored "36" (ascii ":")
      else []
    write 1 (front ++ ascii (toString p.chosen ++ "\n"))
    return (found, shown)
  if binary then
    if found then remark (title ++ ": binary file matches")
    return (found, shown)
  write 1 p.out.toList.flatten
  return (found, p.shown)

/-- Whether the options leave a file out. -/
def leavesOut (x : Search) (given : Bool) (path : String) : Bool :=
  let name := if given then path else (path.splitOn "/").getLast?.getD path
  let test (key : String) : List String := (x.chosen.filter fun c => c.key = key).map Choice.value
  let included := test "include"
  (!included.isEmpty && !included.any fun p => nameMatches false p name) || (test "exclude").any fun p =>
    nameMatches false p name

/-- Goes through files. The answer is whether anything was found, and whether anything went wrong. -/
def files (x : Search) (words : List String) : Act (Bool × Bool) := do
  let recursive := has x.chosen "r" || has x.chosen "R"
  let quiet := has x.chosen "q" || has x.chosen "silent"
  let mut found := false
  let mut failed := false
  let mut shown := false
  for word in words do
    if !(quiet && found) then
      let s ← get
      let below : Option (List String) :=
        if !recursive || word = "-" then none
        else match s.tree.node? (pathOf (if word = "" then "." else word)) with
          | .ok (.directory entries) =>
            let skip (name : String) : Bool :=
              x.chosen.any fun c => c.key = "exclude-dir" && nameMatches false c.value name
            some (filesBelow skip 100 word (.directory entries))
          | _ => none
      let paths := below.getD [word]
      for path in paths do
        if !(quiet && found) && !x.leavesOut below.isNone path then
          match ← readSource path with
          | .ok bytes => do
            let (f, sh) ← x.file shown path bytes
            found := found || f
            shown := sh
          | .error r => do
            let skips := r = .isDirectory && value? x.chosen "d" = some "skip"
            if !skips then
              if !has x.chosen "s" then remark (path ++ ": " ++ r.text)
              failed := true
  return (found, failed)

end Search

/-- The patterns that are given, line by line; nothing if there is none. -/
def givenPatterns (chosen : List Choice) (words : List String) :
    Act (Except String (Option (List (List Char) × List String))) := do
  let s ← get
  let own := chosen.filter fun c => c.key = "e" || c.key = "f"
  let linesOf (text : String) : List (List Char) := Text.splitAt '\n' text.toList
  if own.isEmpty then
    match words with
    | [] => return .ok none
    | p :: rest => return .ok (some (linesOf p, rest))
  let mut all : Array (List Char) := #[]
  for c in own do
    if c.key = "e" then all := all ++ (linesOf c.value).toArray
    else
      match ← readSource c.value with
      | .error r => return .error (c.value ++ ": " ++ r.text)
      | .ok bytes => all := all ++ ((lines 10 bytes).1.map (Encoding.decode s.charset)).toArray
  return .ok (some (all.toList, words))

/-- Shows the lines of files that match a pattern; the kind of pattern may be given by the name of the program. -/
def filterLines (usual : PatternKind) : Plain := fun arguments => do
  let misused (text : String) : Act Nat := do
    if text ≠ "" then remark text
    say 2 "Usage: grep [OPTION]... PATTERNS [FILE]..."
    say 2 "Try 'grep --help' for more information."
    pure 2
  modify fun s => { s with name := "grep" }
  match readOptions (filterOptions.map Known.ofText) true (arguments.length + 1) arguments with
  | .error text => misused text
  | .ok (chosen, words) =>
    let kinds : List (String × PatternKind) := [("E", .extended), ("F", .fixed), ("G", .basic), ("P", .perl)]
    let asked := (chosen.filterMap fun c => kinds.lookup c.key).eraseDups
    let around := ["A", "B", "C"].map fun k => (amountOf chosen k)
    match around.findSome? (fun r => match r with
      | .error text => some text
      | .ok _ => none), amountOf chosen "m" with
    | some text, _ => fail (text ++ ": invalid context length argument") 2
    | none, .error _ => fail "invalid max count" 2
    | none, .ok most =>
      if 1 < asked.length then fail "conflicting matchers specified" 2
      else
        let kind := asked.getLast?.getD usual
        match ← givenPatterns chosen words with
        | .error text => fail text 2
        | .ok none => misused ""
        | .ok (some (patterns, words)) =>
          let s ← get
          let ignores := lastOf? chosen ["i", "y", "no-ignore-case"] ∈ [some "i", some "y"]
          let style : RegexStyle := { extended := kind = .extended, fold := ignores, lenient := true, checked := true }
          let patterns := patterns.map fun p => Encoding.decode s.charset (bytesOf p)
          patterns.forM fun p => do
            if let some text := startRemark? kind p then remark ("warning: " ++ text)
          match expressions kind style patterns with
          | .error f => fail f.message 2
          | .ok regexes =>
            let recursive := has chosen "r" || has chosen "R"
            let files := if words.isEmpty then (if recursive then [""] else ["-"]) else words
            let amount (key : String) : Option Nat := ((amountOf chosen key).toOption).bind id
            let usualAround := (amount "C").orElse fun _ => digitsOf? chosen
            let before := (amount "B").orElse fun _ => usualAround
            let after := (amount "A").orElse fun _ => usualAround
            let isFolder := match files with
              | [f] => s.tree.node? (pathOf (if f = "" then "." else f)) |>.toOption |>.any Node.isDirectory
              | _ => false
            let color := ((value? chosen "color").orElse fun _ => value? chosen "colour").getD "never"
            let sieve : Sieve :=
              { inverted := has chosen "v", parts := has chosen "o", numbered := has chosen "n",
                placed := has chosen "b"
                named := match lastOf? chosen ["h", "H"] with
                  | some "H" => true
                  | some _ => false
                  | none => 1 < files.length || (recursive && isFolder)
                colored := color = "always" || color = "yes" || color = "force", tabbed := has chosen "T"
                closedNames := has chosen "Z", before := before.getD 0, after := after.getD 0
                context := before.isSome || after.isSome
                separator := if has chosen "no-group-separator" then none
                  else some ((value? chosen "group-separator").getD "--")
                most, mark := if has chosen "z" then 0 else 10 }
            let test : LineTest :=
              { style, patterns := regexes, word := has chosen "w" && !has chosen "x", whole := has chosen "x" }
            let (found, failed) ← Search.files { test, sieve, chosen } files
            let quiet := has chosen "q" || has chosen "silent"
            pure (if failed && !(quiet && found) then 2 else if found then 0 else 1)

end Tool
end LintRun.Shell
