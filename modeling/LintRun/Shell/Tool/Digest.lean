import LintRun.Shell.Floating
import LintRun.Shell.Tool.Basic

/-!
# Shell — Programs of the system: sums of files

* `Digest.md5`, `Digest.sha1`, `Digest.sha2`: the digests of bytes.
* `Digest.cyclic`: the remainder of a cyclic code.
* `digests`: writes the digests of files, or looks at digests that were written.
* `checksum`, `sum`: short sums of files.
-/

namespace LintRun.Shell
namespace Tool
namespace Digest

/-- The number whose digits, to base 256, are bytes. -/
def ofBytes (bytes : List UInt8) : Nat := bytes.foldl (fun n b => 256 * n + b.toNat) 0

/-- So many digits of a number to base 256, the highest one first. -/
def toBytes (count n : Nat) : List UInt8 :=
  (List.range count).map fun i => UInt8.ofNat (n >>> (8 * (count - 1 - i)))

/-- Pieces of so many elements. -/
def pieces {α : Type} (size : Nat) (xs : List α) : List (List α) :=
  (List.range ((xs.length + size - 1) / size)).map fun i => (xs.drop (size * i)).take size

/-- Bytes with a one bit, zeros and their length in bits behind them, up to whole blocks. -/
def padded (block : Nat) (littleEnd : Bool) (bytes : List UInt8) : List (List UInt8) :=
  let field := block / 8
  let gap := (2 * block - 1 - field - bytes.length % block) % block
  let size := toBytes field (8 * bytes.length)
  pieces block (bytes ++ 0x80 :: List.replicate gap 0 ++ if littleEnd then size.reverse else size)

/-- The largest number whose power is not above another one. -/
def root (power n : Nat) : Nat :=
  (List.range (n.log2 / power + 1)).foldr (fun i r =>
    let next := r + Nat.pow 2 i
    if Nat.pow next power ≤ n then next else r) 0

def primes (count : Nat) : List Nat :=
  ((List.range 420).filter fun n => 1 < n && (List.range n).all fun d => d < 2 || n % d ≠ 0).take count

/-- The first bits behind the point of the roots of the first primes. -/
def rootBits (width power count : Nat) : List (BitVec width) :=
  (primes count).map fun p => BitVec.ofNat width (root power (p * Nat.pow 2 (power * width)))

/-- The words of a block, and those that follow from sixteen before them. -/
def schedule {w : Nat} (next : (Nat → BitVec w) → BitVec w) (size : Nat) (first : List (BitVec w)) : List (BitVec w) :=
  ((List.range (size - 16)).foldl (fun (all : Array (BitVec w)) _ =>
    all.push (next fun back => all.getD (all.size - back) 0)) first.toArray).toList

/-- The words of a block, of so many bytes each. -/
def words (width : Nat) (littleEnd : Bool) (block : List UInt8) : List (BitVec width) :=
  (pieces (width / 8) block).map fun bs => BitVec.ofNat width (ofBytes (if littleEnd then bs.reverse else bs))

def added {w : Nat} (a b : List (BitVec w)) : List (BitVec w) := List.zipWith (· + ·) a b

/-! ### Digests -/

/-- The constants of a round: the first bits of sines. -/
def sines : List (BitVec 32) :=
  (List.range 64).map fun i =>
    BitVec.ofNat 32 (Float.floor (4294967296.0 * (Float.sin (Float.ofNat (i + 1))).abs)).toUInt64.toNat

def md5Start : List (BitVec 32) := [0x67452301, 0xEFCDAB89, 0x98BADCFE, 0x10325476]

def md5Turns : List Nat := [[7, 12, 17, 22], [5, 9, 14, 20], [4, 11, 16, 23], [6, 10, 15, 21]].flatMap fun t => t ++
    t ++ t ++ t

def md5 (bytes : List UInt8) : List UInt8 :=
  let rounds := (List.range 64).zip (sines.zip md5Turns)
  let step (ws : Array (BitVec 32)) (state : List (BitVec 32)) (round : Nat × BitVec 32 × Nat) : List (BitVec 32) :=
    match state, round with
    | [a, b, c, d], (i, sine, turn) =>
      let (mixed, index) : BitVec 32 × Nat :=
        if i < 16 then ((b &&& c) ||| (~~~b &&& d), i)
        else if i < 32 then ((d &&& b) ||| (~~~d &&& c), (5 * i + 1) % 16)
        else if i < 48 then (b ^^^ c ^^^ d, (3 * i + 5) % 16)
        else (c ^^^ (b ||| ~~~d), (7 * i) % 16)
      [d, b + (a + mixed + sine + ws.getD index 0).rotateLeft turn, b, c]
    | state, _ => state
  let final := (padded 64 true bytes).foldl (fun state block =>
    added state (rounds.foldl (step (words 32 true block).toArray) state)) md5Start
  final.flatMap fun w => (toBytes 4 w.toNat).reverse

def sha1 (bytes : List UInt8) : List UInt8 :=
  let step (state : List (BitVec 32)) (round : Nat × BitVec 32) : List (BitVec 32) :=
    match state, round with
    | [a, b, c, d, e], (i, word) =>
      let (mixed, constant) : BitVec 32 × BitVec 32 :=
        if i < 20 then ((b &&& c) ||| (~~~b &&& d), 0x5A827999)
        else if i < 40 then (b ^^^ c ^^^ d, 0x6ED9EBA1)
        else if i < 60 then ((b &&& c) ||| (b &&& d) ||| (c &&& d), 0x8F1BBCDC)
        else (b ^^^ c ^^^ d, 0xCA62C1D6)
      [a.rotateLeft 5 + mixed + e + constant + word, a, b.rotateLeft 30, c, d]
    | state, _ => state
  let next (back : Nat → BitVec 32) : BitVec 32 := (back 3 ^^^ back 8 ^^^ back 14 ^^^ back 16).rotateLeft 1
  let final := (padded 64 false bytes).foldl (fun state block =>
    let rounds := (List.range 80).zip (schedule next 80 (words 32 false block))
    added state (rounds.foldl step state)) (md5Start ++ [0xC3D2E1F0])
  final.flatMap fun w => toBytes 4 w.toNat

/-- What tells the digests of one family apart. -/
structure Family where
  width : Nat
  rounds : Nat
  /-- How far words are turned for the two big sums and the two small ones; the last number of a small
  one is a shift. -/
  bigA : List Nat
  bigE : List Nat
  smallOld : List Nat
  smallNew : List Nat

def Family.short : Family := ⟨32, 64, [2, 13, 22], [6, 11, 25], [7, 18, 3], [17, 19, 10]⟩

def Family.long : Family := ⟨64, 80, [28, 34, 39], [14, 18, 41], [1, 8, 7], [19, 61, 6]⟩

def turned {w : Nat} (x : BitVec w) : List Nat → BitVec w
  | [] => 0
  | n :: rest => x.rotateRight n ^^^ turned x rest

def turnedAndShifted {w : Nat} (x : BitVec w) : List Nat → BitVec w
  | [] => 0
  | [n] => x >>> n
  | n :: rest => x.rotateRight n ^^^ turnedAndShifted x rest

def sha2 (f : Family) (start : List (BitVec f.width)) (size : Nat) (bytes : List UInt8) : List UInt8 :=
  let constants := rootBits f.width 3 f.rounds
  let step (state : List (BitVec f.width)) (round : BitVec f.width × BitVec f.width) : List (BitVec f.width) :=
    match state, round with
    | [a, b, c, d, e, g, h, i], (constant, word) =>
      let first := i + turned e f.bigE + ((e &&& g) ^^^ (~~~e &&& h)) + constant + word
      let second := turned a f.bigA + ((a &&& b) ^^^ (a &&& c) ^^^ (b &&& c))
      [first + second, a, b, c, d + first, e, g, h]
    | state, _ => state
  let next (back : Nat → BitVec f.width) : BitVec f.width :=
    turnedAndShifted (back 2) f.smallNew + back 7 + turnedAndShifted (back 15) f.smallOld + back 16
  let final := (padded (2 * f.width) false bytes).foldl (fun state block =>
    let rounds := constants.zip (schedule next f.rounds (words f.width false block))
    added state (rounds.foldl step state)) start
  (final.flatMap fun w => toBytes (f.width / 8) w.toNat).take size

def sha256 : List UInt8 → List UInt8 := sha2 .short (rootBits 32 2 8) 32

def sha512 : List UInt8 → List UInt8 := sha2 .long (rootBits 64 2 8) 64

/-- The lower half of the first bits of the roots of the ninth to the sixteenth prime. -/
def sha224 : List UInt8 → List UInt8 :=
  sha2 .short (((rootBits 64 2 16).drop 8).map fun w => BitVec.ofNat 32 w.toNat) 28

def sha384 : List UInt8 → List UInt8 := sha2 .long ((rootBits 64 2 16).drop 8) 48

/-- The remainder of bytes, and their number behind them, in a cyclic code. -/
def cyclic (bytes : List UInt8) : Nat :=
  let polynomial : UInt32 := 0x04C11DB7
  let bit (r : UInt32) : UInt32 := if r &&& 0x80000000 != 0 then (r <<< 1) ^^^ polynomial else r <<< 1
  let byte (r : UInt32) (b : UInt8) : UInt32 := (List.range 8).foldl (fun r _ => bit r) (r ^^^ (b.toUInt32 <<< 24))
  let size := ((toBytes 8 bytes.length).dropWhile (· = 0)).reverse
  (~~~((bytes ++ size).foldl byte 0)).toNat

/-- A sum that is turned by one bit before each byte. -/
def turningSum (bytes : List UInt8) : Nat :=
  bytes.foldl (fun n b => (n / 2 + 32768 * (n % 2) + b.toNat) % 65536) 0

/-- A sum that is folded to sixteen bits. -/
def foldedSum (bytes : List UInt8) : Nat :=
  let total := bytes.foldl (fun n b => n + b.toNat) 0 % Nat.pow 2 32
  let once := total % 65536 + total / 65536
  once % 65536 + once / 65536

def hex (bytes : List UInt8) : String :=
  String.ofList (bytes.flatMap fun b => [Nat.digitChar (b.toNat / 16), Nat.digitChar (b.toNat % 16)])

end Digest

/-! ### Programs -/

/-- A file name as it stands behind a digest, and whether it had to be changed. -/
def digestName (path : String) : String × Bool :=
  let cs := path.toList
  (String.ofList (cs.flatMap fun c =>
      if c = '\\' then ['\\', '\\'] else if c = '\n' then ['\\', 'n'] else if c = '\r' then ['\\', 'r'] else [c]),
    cs.any fun c => c = '\\' || c = '\n' || c = '\r')

/-- One line of written digests: the digest and the name. -/
def digestLine? (size : Nat) (line : String) : Option (String × String) :=
  let cs := line.toList
  let digest := cs.takeWhile fun c => (Text.digitIn? 16 c).isSome
  match cs.drop digest.length with
  | ' ' :: ' ' :: name | ' ' :: '*' :: name =>
    if digest.length = size && !name.isEmpty then some (String.ofList (digest.map Char.toLower), String.ofList name)
      else none
  | _ => none

/-- Looks at the digests that a file holds. -/
def checkDigests (digest : List UInt8 → List UInt8) (quiet silent : Bool) (path : String)
    (bytes : List UInt8) : Act Nat := do
  let s ← get
  let size := 2 * (digest []).length
  let found := (lines 10 bytes).1.map fun l => digestLine? size (String.ofList (Encoding.decode s.charset l))
  let shown := if path = "-" then "'standard input'" else shownName s path
  let mut odd := 0
  let mut bad := 0
  let mut lost := 0
  for line in found do
    match line with
    | none => odd := odd + 1
    | some (want, name) =>
      match ← readSource name with
      | .error r =>
        remark (shownName s name ++ ": " ++ r.text)
        if !silent then say 1 (name ++ ": FAILED open or read")
        lost := lost + 1
      | .ok content =>
        if Digest.hex (digest content) = want then
          if !quiet && !silent then say 1 (name ++ ": OK")
        else
          if !silent then say 1 (name ++ ": FAILED")
          bad := bad + 1
  let counted (n : Nat) (one many : String) : Act Unit := do
    if 0 < n && !silent then remark ("WARNING: " ++ toString n ++ " " ++ if n = 1 then one else many)
  if odd = found.length then fail (shown ++ ": no properly formatted checksum lines found")
  else do
    counted odd "line is improperly formatted" "lines are improperly formatted"
    counted lost "listed file could not be read" "listed files could not be read"
    counted bad "computed checksum did NOT match" "computed checksums did NOT match"
    pure (if bad + lost = 0 then 0 else 1)

/-- Writes the digests of files. -/
def digests (label : String) (digest : List UInt8 → List UInt8) : Plain :=
  withChoices ["b/binary", "c/check", "t/text", "z/zero", "w/warn", "/tag", "/quiet", "/status", "/strict",
    "/ignore-missing"] fun chosen words => do
    if has chosen "c" then eachFile words (checkDigests digest (has chosen "quiet") (has chosen "status"))
    else eachFile words fun path bytes => do
      let (name, changed) := if has chosen "z" then (path, false) else digestName path
      let text := Digest.hex (digest bytes)
      let line :=
        if has chosen "tag" then label ++ " (" ++ name ++ ") = " ++ text
        else text ++ (if has chosen "b" then " *" else "  ") ++ name
      put 1 ((if changed then "\\" else "") ++ line ++ if has chosen "z" then "\x00" else "\n")
      pure 0

def checksum : Plain :=
  withChoices [] fun _ words =>
    eachFile words fun path bytes => do
      say 1 (toString (Digest.cyclic bytes) ++ " " ++ toString bytes.length ++ if words.isEmpty then "" else " " ++
        path)
      pure 0

def sum : Plain :=
  withChoices ["r", "s/sysv"] fun chosen words =>
    eachFile words fun path bytes => do
      let name := if words.isEmpty then "" else " " ++ path
      let blocks (size : Nat) : String := toString ((bytes.length + size - 1) / size)
      if lastOf? chosen ["r", "s"] = some "s" then say 1 (toString (Digest.foldedSum bytes) ++ " " ++ blocks 512 ++
        name)
      else
        let digits := toString (Digest.turningSum bytes)
        say 1 (String.ofList (List.replicate (5 - digits.length) '0') ++ digits ++ " " ++
          Text.padLeft 5 (blocks 1024) ++ name)
      pure 0

end Tool
end LintRun.Shell
