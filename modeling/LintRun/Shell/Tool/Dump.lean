import LintRun.Shell.Tool.Basic

/-!
# Shell — Programs of the system: bytes as text

* `Dump.Layout`: how the bytes of a line are shown.
* `dump`: writes bytes as numbers and characters, line by line with their offsets.
* `Six.encode`, `Six.decode?`: bytes as characters that hold six bits each.
* `sixBits`: writes bytes that way, or reads them.
-/

namespace LintRun.Shell
namespace Tool

/-! ### Numbers and characters -/

namespace Dump

/-- What the bytes of a group are shown as. -/
inductive Show
  | number (base : Nat) (signed : Bool)
  | glyph
  | name
  deriving DecidableEq, Repr

/-- How the bytes of a line are shown: as what, in groups of how many, and whether the line ends with its text. -/
structure Layout where
  as : Show
  size : Nat
  trailer : Bool := false
  deriving DecidableEq, Repr

/-- The columns of one group, without the blank in front. -/
def Layout.width (l : Layout) : Nat :=
  match l.as with
  | .number 10 signed =>
    (Nat.toDigits 10 (Nat.pow 2 (8 * l.size - if signed then 1 else 0) - 1)).length +
      if signed then 1 else 0
  | .number 8 _ => (8 * l.size + 2) / 3
  | .number _ _ => 2 * l.size
  | _ => 3

/-- The names of the first marks. -/
def markNames : List String :=
  ["nul", "soh", "stx", "etx", "eot", "enq", "ack", "bel", "bs", "ht", "nl", "vt", "ff", "cr", "so", "si", "dle", "dc1",
    "dc2", "dc3", "dc4", "nak", "syn", "etb", "can", "em", "sub", "esc", "fs", "gs", "rs", "us", "sp"]

/-- A number with zeros in front up to a width. -/
def zeros (width base n : Nat) : String :=
  let digits := Nat.toDigits base n
  String.ofList (List.replicate (width - digits.length) '0' ++ digits)

/-- A byte as a character, an escape or three digits. -/
def glyph (b : UInt8) : String :=
  match [(0, "\\0"), (7, "\\a"), (8, "\\b"), (12, "\\f"), (10, "\\n"), (13, "\\r"), (9, "\\t"),
    (11, "\\v")].lookup b.toNat with
  | some text => text
  | none => if 32 ≤ b && b < 127 then String.singleton (Char.ofNat b.toNat) else zeros 3 8 b.toNat

/-- The bytes of one group, the lowest one first. -/
def Layout.group (l : Layout) (bytes : List UInt8) : String :=
  let n := bytes.foldr (fun b n => 256 * n + b.toNat) 0
  match l.as with
  | .glyph => glyph (bytes.headD 0)
  | .name =>
    let low := n % 128
    if low = 127 then "del" else markNames.getD low (String.singleton (Char.ofNat low))
  | .number 10 false => toString n
  | .number 10 true =>
    toString (if 2 * n < Nat.pow 256 l.size then Int.ofNat n
      else Int.ofNat n - (Nat.pow 256 l.size : Nat))
  | .number base _ => zeros l.width base n

def groups (size : Nat) (bytes : List UInt8) : List (List UInt8) :=
  (List.range ((bytes.length + size - 1) / size)).map fun i =>
    let part := (bytes.drop (size * i)).take size
    part ++ List.replicate (size - part.length) 0

/-- The number of bytes that the sizes of all groups divide. -/
def step (layouts : List Layout) : Nat := layouts.foldl (fun n l => Nat.lcm n l.size) 1

/-- The text of the bytes of a line in one layout, as wide as the widest one. -/
def line (layouts : List Layout) (perLine : Nat) (l : Layout) (bytes : List UInt8) : String :=
  let unit := step layouts
  let rounded := bytes ++ List.replicate ((unit - bytes.length % unit) % unit) 0
  let columns (l : Layout) : Nat := (l.width + 1) * (perLine / l.size)
  let count := perLine / l.size
  let pad := layouts.foldl (fun n other => max n (columns other)) 0 - columns l
  let shown := groups l.size rounded
  let cells := shown.zipIdx.map fun (g, i) =>
    let own := pad * (count - i) / count - pad * (count - i - 1) / count
    Text.padLeft (own + l.width + 1) (l.group g)
  let blank := count - shown.length
  let text (b : UInt8) : Char := if 32 ≤ b && b < 127 then Char.ofNat b.toNat else '.'
  String.join cells ++
    if l.trailer then
      Text.padLeft (blank * (l.width + 1) + pad * blank / count) "" ++ "  >" ++ String.ofList (bytes.map text) ++ "<"
    else ""

/-- The text of an offset. -/
def offset (radix : Char) (n : Nat) : String :=
  match radix with
  | 'd' => zeros 7 10 n
  | 'x' => zeros 6 16 n
  | 'n' => ""
  | _ => zeros 7 8 n

/-- All lines. Lines that are the same as the one before them are left out, with a mark for them. -/
def text (radix : Char) (all : Bool) (layouts : List Layout) (perLine start : Nat) (bytes : List UInt8) : String :=
  let rows := (List.range ((bytes.length + perLine - 1) / perLine)).map fun i => (bytes.drop (perLine * i)).take perLine
  let margin := Text.padLeft (offset radix 0).length ""
  let shown (i : Nat) (row : List UInt8) : String :=
    String.join (layouts.zipIdx.map fun (l, k) =>
      (if k = 0 then offset radix (start + perLine * i) else margin) ++ line layouts perLine l row ++ "\n")
  let rec go : Nat → Option (List UInt8) → Bool → List (List UInt8) → List String
    | _, _, _, [] => []
    | i, before, marked, row :: rest =>
      if !all && before = some row && row.length = perLine then
        (if marked then [] else ["*\n"]) ++ go (i + 1) before true rest
      else shown i row :: go (i + 1) (some row) false rest
  let finish := if radix = 'n' then "" else offset radix (start + bytes.length) ++ "\n"
  String.join (go 0 none false rows) ++ finish

/-- What is wrong with the types that were asked for. -/
inductive Fault
  | letter (c : Char)
  | size (n : Nat)
  deriving DecidableEq, Repr

/-- The size that the rest of a type gives, and what is left. -/
def typeSize (cs : List Char) : Except Fault (Nat × List Char) :=
  let digits := cs.takeWhile Text.isAsciiDigit
  match cs with
  | 'C' :: rest => .ok (1, rest)
  | 'S' :: rest => .ok (2, rest)
  | 'I' :: rest => .ok (4, rest)
  | 'L' :: rest => .ok (8, rest)
  | _ =>
    if digits.isEmpty then .ok (4, cs)
    else
      let n := Text.numberOf 10 digits
      if [1, 2, 4, 8].contains n then .ok (n, cs.drop digits.length) else .error (.size n)

/-- The layouts that a text stands for; the fuel is the length of the text. -/
def readLayouts : Nat → List Char → Except Fault (List Layout)
  | 0, _ | _, [] => .ok []
  | fuel + 1, c :: rest => do
    let (as, size, rest) ← match c with
      | 'a' => .ok (.name, 1, rest)
      | 'c' => .ok (.glyph, 1, rest)
      | 'd' => (typeSize rest).map fun (n, rest) => (Show.number 10 true, n, rest)
      | 'u' => (typeSize rest).map fun (n, rest) => (Show.number 10 false, n, rest)
      | 'o' => (typeSize rest).map fun (n, rest) => (Show.number 8 false, n, rest)
      | 'x' => (typeSize rest).map fun (n, rest) => (Show.number 16 false, n, rest)
      | c => .error (.letter c)
    let trailer := rest.head? = some 'z'
    let more ← readLayouts fuel (if trailer then rest.drop 1 else rest)
    .ok ({ as, size, trailer } :: more)

def layouts (text : String) : Except Fault (List Layout) := readLayouts text.length text.toList

/-- The types that letters of options stand for. -/
def shortTypes : List (String × String) :=
  [("a", "a"), ("b", "o1"), ("c", "c"), ("d", "u2"), ("i", "dI"), ("l", "dL"), ("o", "o2"), ("s", "d2"), ("x", "x2"),
    ("h", "x2")]

end Dump

def dump : Plain :=
  withChoices ["A/address-radix=", "j/skip-bytes=", "N/read-bytes=", "t/format=", "v/output-duplicates", "w/width=?",
    "a", "b", "c", "d", "i", "l", "o", "s", "x", "h"] fun chosen words => do
    let s ← get
    let types := chosen.filterMap fun c => if c.key = "t" then some c.value else Dump.shortTypes.lookup c.key
    let radix := ((value? chosen "A").getD "o").toList.headD ' '
    let amount (key : String) : Option (Option Nat) := (value? chosen key).map sized?
    match types.mapM fun t => (Dump.layouts t).mapError fun f => (t, f) with
    | .error (t, .letter c) =>
      fail ("invalid character '" ++ String.singleton c ++ "' in type string " ++ quotedFor s t)
    | .error (t, .size n) =>
      fail ("invalid type string " ++ quotedFor s t ++ ";\nthis system doesn't provide a " ++ toString n ++
        "-byte integral type")
    | .ok found =>
      if !"doxn".toList.contains radix then
        fail ("invalid output address radix '" ++ String.singleton radix ++ "'; it must be one character from [doxn]")
      else match amount "j", amount "N" with
        | some none, _ => fail ("invalid -j argument '" ++ (value? chosen "j").getD "" ++ "'")
        | _, some none => fail ("invalid -N argument '" ++ (value? chosen "N").getD "" ++ "'")
        | skip, limit => do
          let layouts := if found.isEmpty then [⟨.number 8 false, 2, false⟩] else found.flatten
          let unit := Dump.step layouts
          let perLine := match value? chosen "w" with
            | none => if 16 % unit = 0 then 16 else unit
            | some "" => 32
            | some t => (Text.natural? t).getD 16
          let (bytes, status) ← allBytes words
          let start := (skip.bind id).getD 0
          if bytes.length < start then fail "cannot skip past end of combined input"
          else
            let bytes := bytes.drop start
            let bytes := match limit.bind id with
              | some n => bytes.take n
              | none => bytes
            let sound := perLine ≠ 0 && perLine % unit = 0
            if !sound then
              remark ("warning: invalid width " ++ (value? chosen "w").getD "" ++ "; using " ++ toString unit ++
                " instead")
            if bytes.isEmpty && status ≠ 0 && !words.isEmpty && (words.length = 1) then pure status
            else do
              put 1 (Dump.text radix (has chosen "v") layouts (if sound then perLine else unit) start bytes)
              pure status

/-! ### Six bits for each character -/

namespace Six

def alphabet : List Char :=
  "ABCDEFGHIJKLMNOPQRSTUVWXYZabcdefghijklmnopqrstuvwxyz0123456789+/".toList

/-- Three bytes make four characters. -/
def encode : List UInt8 → List Char
  | [] => []
  | [a] => [digit (a.toNat / 4), digit (a.toNat % 4 * 16), '=', '=']
  | [a, b] => [digit (a.toNat / 4), digit (a.toNat % 4 * 16 + b.toNat / 16), digit (b.toNat % 16 * 4), '=']
  | a :: b :: c :: rest =>
    digit (a.toNat / 4) :: digit (a.toNat % 4 * 16 + b.toNat / 16) :: digit (b.toNat % 16 * 4 + c.toNat / 64) ::
      digit (c.toNat % 64) :: encode rest
where
  digit (n : Nat) : Char := alphabet.getD n '='

/-- The bytes that characters make up, as far as they are in order, and whether all are. -/
def decode : List Char → List UInt8 × Bool
  | [] => ([], true)
  | a :: b :: c :: d :: rest =>
    match value? a, value? b, value? c, value? d with
    | some x, some y, some z, some w =>
      let (more, sound) := decode rest
      (UInt8.ofNat (4 * x + y / 16) :: UInt8.ofNat (y % 16 * 16 + z / 4) :: UInt8.ofNat (z % 4 * 64 + w) :: more, sound)
    | some x, some y, some z, none =>
      let (more, sound) := if d = '=' then decode rest else ([], false)
      (UInt8.ofNat (4 * x + y / 16) :: UInt8.ofNat (y % 16 * 16 + z / 4) :: more, sound)
    | some x, some y, none, none =>
      let (more, sound) := if c = '=' && d = '=' then decode rest else ([], false)
      (UInt8.ofNat (4 * x + y / 16) :: more, sound)
    | _, _, _, _ => ([], false)
  | [a, b, c] =>
    match value? a, value? b, value? c with
    | some x, some y, some z => ([UInt8.ofNat (4 * x + y / 16), UInt8.ofNat (y % 16 * 16 + z / 4)], false)
    | some x, some y, none => ([UInt8.ofNat (4 * x + y / 16)], false)
    | _, _, _ => ([], false)
  | [a, b] =>
    match value? a, value? b with
    | some x, some y => ([UInt8.ofNat (4 * x + y / 16)], false)
    | _, _ => ([], false)
  | [_] => ([], false)
where
  value? (c : Char) : Option Nat := alphabet.idxOf? c

end Six

def sixBits : Plain :=
  withChoices ["d/decode", "i/ignore-garbage", "w/wrap="] fun chosen words => do
    let s ← get
    match words, (value? chosen "w").map Text.natural? with
    | _, some none => fail ("invalid wrap size: " ++ quotedFor s ((value? chosen "w").getD ""))
    | _ :: other :: _, _ => misuse ("extra operand " ++ quotedFor s other)
    | words, wrap => do
      let path := words.headD "-"
      match ← readSource path with
      | .error r => fail (shownName s path ++ ": " ++ r.text)
      | .ok bytes =>
        if has chosen "d" then
          let cs := (bytes.map fun b => Char.ofNat b.toNat).filter (· ≠ '\n')
          let cs := if has chosen "i" then cs.filter fun c => c = '=' || Six.alphabet.contains c else cs
          let (out, sound) := Six.decode cs
          write 1 out
          if sound then pure 0 else fail "invalid input"
        else
          let cs := Six.encode bytes
          let width := (wrap.bind id).getD 76
          if width = 0 then put 1 (String.ofList cs)
          else
            let rows := (List.range ((cs.length + width - 1) / width)).map fun i => (cs.drop (width * i)).take width
            put 1 (String.ofList (rows.flatMap (· ++ ['\n'])))
          pure 0

end Tool
end LintRun.Shell
