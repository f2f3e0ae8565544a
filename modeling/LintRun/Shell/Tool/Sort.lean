import LintRun.Shell.Redirection
import LintRun.Shell.Tool.Basic
import LintRun.Shell.Tool.Order

/-!
# Shell — Programs of the system: sorting

* `SortKey`: the part of a line that counts, and how.
* `sort`: lines in order, one order for all files.
-/

namespace LintRun.Shell
namespace Tool

/-- A part of a line that counts in its order: where it starts and where it ends. -/
structure SortKey where
  /-- The fields and then the characters to pass over; the start of the line if there is nothing. -/
  fields : Nat := 0
  chars : Nat := 0
  /-- The fields up to the end of the part and the characters of the last one; the end of the line if there is
  nothing. -/
  last : Option (Nat × Nat) := none
  ranking : Ranking := {}
  deriving DecidableEq, Repr

namespace SortKey

/-- A line without some fields at its front. -/
def afterFields (tab : Option UInt8) : Nat → List UInt8 → List UInt8
  | 0, line => line
  | n + 1, line =>
    match tab with
    | some t => afterFields tab n ((line.dropWhile (· ≠ t)).drop 1)
    | none => afterFields tab n ((line.dropWhile Order.isGap).dropWhile fun b => !Order.isGap b)

/-- The length of a line up to the end of a field, or up to a place within the next one. -/
def endOf (k : SortKey) (tab : Option UInt8) (line : List UInt8) : Nat :=
  match k.last with
  | none => line.length
  | some (fields, chars) =>
    if chars = 0 then
      match tab with
      | some t =>
        let before := line.length - (afterFields tab fields line).length
        before + ((line.drop before).takeWhile (· ≠ t)).length
      | none => line.length - (afterFields tab (fields + 1) line).length
    else
      let rest := afterFields tab fields line
      let rest := if k.ranking.skipsEnd then rest.dropWhile Order.isGap else rest
      min line.length (line.length - rest.length + chars)

/-- The part of a line that counts. -/
def part (k : SortKey) (tab : Option UInt8) (line : List UInt8) : List UInt8 :=
  let rest := afterFields tab k.fields line
  let rest := if k.ranking.skipsStart then rest.dropWhile Order.isGap else rest
  let start := min line.length (line.length - rest.length + k.chars)
  (line.take (k.endOf tab line)).drop start

/-- A number at the front of a description, and the rest. -/
def numberAt (what : String) (cs : List Char) : Except String (Nat × List Char) :=
  let digits := cs.takeWhile Text.isAsciiDigit
  if digits.isEmpty then .error (what ++ ": invalid count at start of '" ++ String.ofList cs ++ "'")
  else .ok (Text.numberOf 10 digits, cs.drop digits.length)

/-- The letters of options at the front of a description, and the rest. -/
def optionsAt (atStart : Bool) (r : Ranking) : List Char → Ranking × List Char
  | 'b' :: rest =>
    optionsAt atStart (if atStart then { r with skipsStart := true } else { r with skipsEnd := true }) rest
  | c :: rest =>
    match r.with? c with
    | some r => optionsAt atStart r rest
    | none => (r, c :: rest)
  | [] => (r, [])

/-- The key of a description. -/
def ofText (text : String) : Except String SortKey := do
  let bad (what : String) : Except String Unit := .error (what ++ ": invalid field specification '" ++ text ++ "'")
  let (field, rest) ← numberAt "invalid number at field start" text.toList
  if field = 0 then bad "field number is zero"
  let (chars, rest) ← match rest with
    | '.' :: rest => do
      let (n, rest) ← numberAt "invalid number after '.'" rest
      if n = 0 then bad "character offset is zero"
      .ok (n - 1, rest)
    | rest => .ok (0, rest)
  let (ranking, rest) := optionsAt true {} rest
  match rest with
  | [] => .ok { fields := field - 1, chars, ranking }
  | ',' :: rest => do
    let (final, rest) ← numberAt "invalid number after ','" rest
    if final = 0 then bad "field number is zero"
    let (finalChars, rest) ← match rest with
      | '.' :: rest => numberAt "invalid number after '.'" rest
      | rest => .ok (0, rest)
    let (ranking, rest) := optionsAt false ranking rest
    if !rest.isEmpty then bad "stray character in field spec"
    .ok { fields := field - 1, chars, last := some (final - 1, finalChars), ranking }
  | _ => do
    bad "stray character in field spec"
    .ok {}

end SortKey

/-- All that decides about the order of lines. -/
structure Sorting where
  keys : List SortKey
  tab : Option UInt8 := none
  /-- Lines that are alike in what counts stay as they are. -/
  stable : Bool := false
  unique : Bool := false
  reversed : Bool := false

/-- A line with the parts of it that count. -/
abbrev Keyed := List UInt8 × List (List UInt8)

namespace Sorting

def keyed (o : Sorting) (line : List UInt8) : Keyed := (line, o.keys.map fun k => k.part o.tab line)

/-- The order of two lines by the parts that count. -/
def compareParts : List SortKey → List (List UInt8) → List (List UInt8) → Ordering
  | k :: ks, a :: as, b :: bs => (k.ranking.compare a b).then (compareParts ks as bs)
  | _, _, _ => .eq

/-- The order of two lines. -/
def compare (o : Sorting) (a b : Keyed) : Ordering :=
  let lines := if o.reversed then (compareBytes a.1 b.1).swap else compareBytes a.1 b.1
  if o.keys.isEmpty then lines
  else (compareParts o.keys a.2 b.2).then (if o.stable || o.unique then .eq else lines)

/-- Lines of which those that are alike have become one. -/
def alone (o : Sorting) : List Keyed → List Keyed
  | a :: b :: rest => if o.compare a b = .eq then alone o (a :: rest) else a :: alone o (b :: rest)
  | ls => ls
termination_by ls => ls.length

/-- Lines in order. -/
def sorted (o : Sorting) (ls : List (List UInt8)) : List (List UInt8) :=
  let all := (ls.map o.keyed).mergeSort fun a b => o.compare a b ≠ .gt
  (if o.unique then o.alone all else all).map Prod.fst

/-- The first line that stands in the wrong place, with its number. -/
def disorder? (o : Sorting) : Nat → List Keyed → Option (Nat × List UInt8)
  | n, a :: b :: rest =>
    let r := o.compare a b
    if r = .gt || (o.unique && r = .eq) then some (n + 1, b.1) else disorder? o (n + 1) (b :: rest)
  | _, _ => none

/-- The lines of several files, the least of the first ones always first. -/
def interleaved (o : Sorting) : Nat → List (List Keyed) → List Keyed
  | 0, _ => []
  | fuel + 1, files =>
    let least := files.zipIdx.foldl (fun (best : Option (Keyed × Nat)) (f, i) =>
      match f, best with
      | a :: _, some (b, j) => if o.compare a b = .lt then some (a, i) else some (b, j)
      | a :: _, none => some (a, i)
      | [], best => best) none
    match least with
    | none => []
    | some (a, i) => a :: interleaved o fuel (files.modify i (List.drop 1))

end Sorting

/-- Keys in the old form, a plus sign and the number of fields to pass over. -/
def withOldKeys : List String → List String
  | a :: rest =>
    let cs := a.toList
    match cs with
    | '+' :: c :: _ =>
      let digits := (cs.drop 1).takeWhile Text.isAsciiDigit
      if Text.isAsciiDigit c then
        let more := cs.drop (1 + digits.length)
        ("-k" ++ toString (Text.numberOf 10 digits + 1) ++ String.ofList more) :: withOldKeys rest
      else a :: withOldKeys rest
    | _ => if a = "--" then a :: rest else a :: withOldKeys rest
  | [] => []

/-- The orders that have a name. -/
def orderNames : List (String × Char) :=
  [("general-numeric", 'g'), ("human-numeric", 'h'), ("month", 'M'), ("numeric", 'n'), ("random", 'R'),
    ("version", 'V')]

/-- Why the options of sorting make no sense. -/
inductive SortFault
  | plain (text : String)
  | misuse (text : String)

/-- The order that options ask for. -/
def sortingOf (chosen : List Choice) : Except SortFault Sorting := do
  let own ← chosen.foldlM (fun (r : Ranking) c =>
    if c.key = "sort" then
      match orderNames.find? fun (n, _) => c.value.toList.isPrefixOf n.toList && c.value ≠ "" with
      | some (_, letter) => Except.ok ((r.with? letter).getD r)
      | none =>
        throw (.misuse ("invalid argument '" ++ c.value ++ "' for '--sort'\nValid arguments are:" ++
          String.join (orderNames.map fun (n, _) => "\n  - '" ++ n ++ "'")))
    else match c.key.toList with
      | [letter] => .ok ((r.with? letter).getD r)
      | _ => .ok r) ({} : Ranking)
  let keys ← (chosen.filter fun c => c.key = "k").mapM fun c =>
    match SortKey.ofText c.value with
    | .ok k => Except.ok k
    | .error text => throw (.plain text)
  let keys := keys.map fun k => if k.ranking = {} then { k with ranking := own } else k
  let keys := if keys.isEmpty && { own with reversed := false } ≠ ({} : Ranking) then [{ ranking := own }] else keys
  if let some letters := keys.findSome? fun k => k.ranking.conflict? then
    throw (.plain ("options '-" ++ letters ++ "' are incompatible"))
  let tab ← match value? chosen "t" with
    | none => pure none
    | some "" => throw (.plain "empty tab")
    | some "\\0" => pure (some (0 : UInt8))
    | some text =>
      match ascii text with
      | [b] => pure (some b)
      | _ => throw (.plain ("multi-character tab '" ++ text ++ "'"))
  return { keys, tab, stable := has chosen "s", unique := has chosen "u", reversed := own.reversed }

/-- The lines of each file, or what is said of the first one that cannot be read. -/
def sortedSources (mark : UInt8) (files : List String) : Act (Except String (List (List (List UInt8)))) := do
  let s ← get
  match files.find? fun p => p ≠ "-" && (descriptorPath? p).isNone && (fileKind? s.tree p).isNone with
  | some p => pure (.error ("cannot read: " ++ shownName s p ++ ": " ++ Refusal.noEntry.text))
  | none =>
    let mut all : Array (List (List UInt8)) := #[]
    for p in files do
      match ← readSource p with
      | .ok bytes => all := all.push (lines mark bytes).1
      | .error r => return .error ("read failed: " ++ shownName s p ++ ": " ++ r.text)
    return .ok all.toList

def sort : Plain := fun arguments =>
  withChoices ["b/ignore-leading-blanks", "d/dictionary-order", "f/ignore-case", "g/general-numeric-sort",
    "h/human-numeric-sort", "i/ignore-nonprinting", "M/month-sort", "n/numeric-sort", "r/reverse", "R/random-sort",
    "V/version-sort", "/sort=", "k/key=", "t/field-separator=", "s/stable", "u/unique", "c/check=?", "C", "m/merge",
    "o/output=", "S/buffer-size=", "T/temporary-directory=", "z/zero-terminated", "/parallel=", "/debug", "y="]
    (fun chosen words => do
    match sortingOf chosen with
    | .error (.plain text) => fail text 2
    | .error (.misuse text) => misuse text 2
    | .ok o => do
      let s ← get
      let files := if words.isEmpty then ["-"] else words
      let mark : UInt8 := if has chosen "z" then 0 else 10
      let checks := has chosen "c" || has chosen "C"
      if checks && 1 < files.length then
        fail ("extra operand " ++ quotedFor s (files.getD 1 "") ++ " not allowed with -c") 2
      else
        match ← sortedSources mark files with
        | .error text => fail text 2
        | .ok sources =>
          if checks then
            match o.disorder? 1 ((sources.flatten).map o.keyed) with
            | none => pure 0
            | some (n, line) => do
              if has chosen "c" && ! ["quiet", "silent"].contains ((value? chosen "c").getD "") then
                put 2 (s.name ++ ": " ++ files.headD "" ++ ":" ++ toString n ++ ": disorder: ")
                write 2 (line ++ [10])
              pure 1
          else
            let result :=
              if has chosen "m" then
                let all := o.interleaved ((sources.map List.length).foldl (· + ·) 0 + 1)
                  (sources.map fun f => f.map o.keyed)
                (if o.unique then o.alone all else all).map Prod.fst
              else o.sorted sources.flatten
            match value? chosen "o" with
            | none => do
              write 1 (unlines mark result)
              pure 0
            | some path =>
              match ← openOutput false false path with
              | .error r => fail ("open failed: " ++ shownName s path ++ ": " ++ r.text) 2
              | .ok stream => do
                writeTo stream (unlines mark result)
                pure 0) 2 true (withOldKeys arguments)

end Tool
end LintRun.Shell
