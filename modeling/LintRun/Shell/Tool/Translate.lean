import LintRun.Shell.Pattern
import LintRun.Shell.Tool.Basic

/-!
# Shell — Programs of the system: single bytes

A program that exchanges, leaves out or merges bytes. A byte is held as the character of the same number.

* `ByteSet`: one piece of a description of bytes; `ByteSet.listOf` reads a description.
* `translate`: exchanges the bytes of one description for those of another.
-/

namespace LintRun.Shell
namespace Tool

/-- A piece of a description of bytes. -/
inductive ByteSet
  | bytes (cs : List Char)
  /-- The bytes of a class. -/
  | named (name : String) (cs : List Char)
  /-- The bytes that are equivalent to one. -/
  | equal (c : Char)
  /-- One byte as often as there is a need for it. -/
  | filling (c : Char)

/-- The bytes of a piece without the ones that fill up. -/
def ByteSet.own : ByteSet → List Char
  | .bytes cs | .named _ cs => cs
  | .equal c => [c]
  | .filling _ => []

/-- A byte of a description, and whether a backslash has taken its meaning. -/
abbrev MarkedByte := Char × Bool

/-- The bytes of a description after escapes have been replaced. -/
def unescaped : List Char → List MarkedByte
  | [] => []
  | ['\\'] => [('\\', false)]
  | '\\' :: c :: rest =>
    let digits := (c :: rest).takeWhile fun d => '0' ≤ d && d ≤ '7'
    let three := digits.take 3
    if three.isEmpty then
      let value := match c with
        | 'a' => '\x07'
        | 'b' => '\x08'
        | 'f' => '\x0c'
        | 'n' => '\n'
        | 'r' => '\r'
        | 't' => '\t'
        | 'v' => '\x0b'
        | c => c
      (value, true) :: unescaped rest
    else
      let used := if 255 < Text.numberOf 8 three then three.take 2 else three
      (Char.ofNat (Text.numberOf 8 used), true) :: unescaped (rest.drop (used.length - 1))
  | c :: rest => (c, false) :: unescaped rest
termination_by cs => cs.length
decreasing_by all_goals simp_wf; try omega

/-- All bytes, in their order. -/
def everyByte : List Char := (List.range 256).map Char.ofNat

/-- The part of a description up to a mark and a closing bracket, and what comes after them. -/
def closedBy? (mark : Char) : List MarkedByte → Option (List MarkedByte × List MarkedByte)
  | [] => none
  | m :: rest =>
    if m = (mark, false) && rest.head? = some (']', false) then some ([], rest.drop 1)
    else (closedBy? mark rest).map fun (inside, after) => (m :: inside, after)

/-- A byte with the number of its repetitions, after an opening bracket; and what comes after it. -/
def repetition? : List MarkedByte → Except String (Option (ByteSet × List MarkedByte))
  | (c, _) :: ('*', false) :: rest =>
    let digits := rest.takeWhile fun m => m ≠ (']', false)
    let after := rest.drop (digits.length + 1)
    let text := digits.map Prod.fst
    if digits.length = rest.length then .ok none
    else if text.isEmpty then .ok (some (.filling c, after))
    else
      let base := if text.head? = some '0' then 8 else 10
      if text.all fun d => (Text.digitIn? base d).isSome then
        let n := Text.numberOf base text
        .ok (some (if n = 0 then .filling c else .bytes (List.replicate n c), after))
      else .error ("invalid repeat count '" ++ String.ofList text ++ "' in [c*n] construct")
  | _ => .ok none

/-- A construct in brackets at the front of a description, and what comes after it. -/
def bracketed? (ms : List MarkedByte) : Except String (Option (ByteSet × List MarkedByte)) :=
  match ms with
  | ('[', false) :: (kind, false) :: rest =>
    let repeated := repetition? ((kind, false) :: rest)
    -- a mark of a construct may be a byte that is repeated
    let looksRepeated : Bool := match repeated with
      | .ok (some _) => true
      | _ => false
    if kind ≠ ':' && kind ≠ '=' then repeated
    else match closedBy? kind rest with
      | none => repeated
      | some (inside, after) =>
        let name := String.ofList (inside.map Prod.fst)
        if kind = ':' then
          if inside.isEmpty then .error "missing character class name '[::]'"
          else match Pattern.classRanges.lookup (if name = "word" then "" else name) with
            | some ranges => .ok (some (.named name (everyByte.filter (Pattern.inRanges false ranges)), after))
            | none => if looksRepeated then repeated else .error ("invalid character class '" ++ name ++ "'")
        else match inside with
          | [(c, _)] => .ok (some (.equal c, after))
          | [] => .error "missing equivalence class character '[==]'"
          | _ =>
            if looksRepeated then repeated
            else .error (name ++ ": equivalence class operand must be a single character")
  | ('[', false) :: rest => repetition? rest
  | _ => .ok none

/-- A byte in a message about a range. -/
def shownByte (c : Char) : String :=
  match c with
  | '\\' => "\\\\"
  | '\n' => "\\n"
  | '\t' => "\\t"
  | c => if c.toNat < 32 || 127 ≤ c.toNat then String.ofList ('\\' :: Escape.octal c.toNat.toUInt8)
      else String.singleton c

/-- The pieces of so long a description. -/
def ByteSet.readList : Nat → List MarkedByte → Except String (List ByteSet)
  | 0, _ => .ok []
  | _ + 1, [] => .ok []
  | fuel + 1, (c, plain) :: rest => do
    let construct ← if 2 ≤ rest.length then bracketed? ((c, plain) :: rest) else .ok none
    match construct with
    | some (piece, after) => .ok (piece :: (← readList fuel after))
    | none =>
      match rest with
      | ('-', false) :: (d, _) :: after =>
        if d < c then
          .error ("range-endpoints of '" ++ shownByte c ++ "-" ++ shownByte d ++
            "' are in reverse collating sequence order")
        else
          .ok (.bytes (everyByte.filter fun b => decide (c ≤ b) && decide (b ≤ d)) :: (← readList fuel after))
      | _ => .ok (.bytes [c] :: (← readList fuel rest))

/-- The pieces of a description. -/
def ByteSet.listOf (text : String) : Except String (List ByteSet) :=
  let ms := unescaped ((ascii text).map fun b => Char.ofNat b.toNat)
  readList (ms.length + 1) ms

/-- The places at which the classes of letters of one case stand. -/
def casePlaces : Nat → List ByteSet → List Nat
  | _, [] => []
  | place, p :: rest =>
    let more := casePlaces (place + p.own.length) rest
    match p with
    | .named name _ => if name = "upper" || name = "lower" then place :: more else more
    | _ => more

/-- The second description, as it is matched with so many bytes of the first one. -/
def matched (first second : List ByteSet) (source : List Char) (complement truncate : Bool) :
    Except String (List Char) := do
  let fills := second.filter fun p => match p with
    | .filling _ => true
    | _ => false
  if 1 < fills.length then throw "only one [c*] repeat construct may appear in string2"
  if second.any fun p => match p with
    | .equal _ => true
    | _ => false then throw "[=c=] expressions may not appear in string2 when translating"
  let names := second.filterMap fun p => match p with
    | .named name _ => some name
    | _ => none
  if names.any fun n => n ≠ "upper" && n ≠ "lower" then
    throw
      "when translating, the only character classes that may appear in\nstring2 are 'upper' and 'lower'"
  let own := (second.map fun p => p.own.length).foldl (· + ·) 0
  let whole := second.flatMap fun p => match p with
    | .filling c => List.replicate (source.length - own) c
    | p => p.own
  if !complement && (casePlaces 0 second).any fun place => !(casePlaces 0 first).contains place then
    throw "misaligned [:upper:] and/or [:lower:] construct"
  if truncate then return whole.take source.length
  match whole.getLast? with
  | none => throw "when not truncating set1, string2 must be non-empty"
  | some last =>
    let endsNamed : Bool := match second.getLast? with
      | some (.named _ _) => true
      | _ => false
    if whole.length < source.length && endsNamed then
      throw "when translating with string1 longer than string2,\nthe latter string must not end with a character class"
    let all := whole ++ List.replicate (source.length - whole.length) last
    let hasClass := first.any fun p => match p with
      | .named _ _ => true
      | _ => false
    if complement && hasClass && !(all.take source.length).all (· = last) then
      throw ("when translating with complemented character classes,\n" ++
        "string2 must map all characters in the domain to one")
    return all

/-- Bytes of which those of a set that follow one another have become one. -/
def merged (set : List Char) : List Char → List Char
  | c :: d :: rest => if c = d && set.contains c then merged set (d :: rest) else c :: merged set (d :: rest)
  | cs => cs

/-- Bytes after each has been exchanged for its partner, if it has one; the last partner counts. -/
def exchanged (source target : List Char) : Char → Char :=
  let pairs := (source.zip target).reverse
  let table := everyByte.map fun c => (pairs.lookup c).getD c
  let table := table.toArray
  fun c => (table[c.toNat]?).getD c

def translate : Plain := fun arguments =>
  withChoices ["c/complement", "C", "d/delete", "s/squeeze-repeats", "t/truncate-set1"] (fun chosen words => do
    let complement := has chosen "c" || has chosen "C"
    let deletes := has chosen "d"
    let squeezes := has chosen "s"
    let s ← get
    let needed := if deletes == squeezes then 2 else 1
    let most := if deletes && !squeezes then 1 else 2
    let wrong (text more : String) : Act Nat := do
      remark text
      if more ≠ "" then say 2 more
      misuse ""
    match words with
    | [] => misuse "missing operand"
    | first :: rest =>
      if words.length < needed then
        wrong ("missing operand after " ++ quotedFor s first)
          (if squeezes then "Two strings must be given when both deleting and squeezing repeats."
            else "Two strings must be given when translating.")
      else if most < words.length then
        wrong ("extra operand " ++ quotedFor s (words.getD most ""))
          (if words.length = 2 then "Only one string may be given when deleting without squeezing repeats." else "")
      else
        let result : Except String (List Char → List Char) := do
          let one ← ByteSet.listOf first
          if one.any fun p => match p with
            | .filling _ => true
            | _ => false then throw "the [c*] repeat construct may not appear in string1"
          let own := one.flatMap ByteSet.own
          let source := if complement then everyByte.filter fun c => !own.contains c else own
          match rest with
          | [] =>
            if deletes then return fun cs => cs.filter fun c => !source.contains c
            else return merged source
          | second :: _ =>
            let two ← ByteSet.listOf second
            if deletes then
              return fun cs => merged (two.flatMap ByteSet.own) (cs.filter fun c => !source.contains c)
            else
              let target ← matched one two source complement (has chosen "t")
              let change := exchanged source target
              return fun cs => if squeezes then merged target (cs.map change) else cs.map change
        match result with
        | .error text => fail text
        | .ok change => do
          let bytes ← takeInput
          let out := change (bytes.map fun b => Char.ofNat b.toNat)
          write 1 (out.map fun c => c.toNat.toUInt8)
          pure 0) 1 false arguments

end Tool
end LintRun.Shell
