import LintRun.Shell.Floating

/-!
# Shell — Orders of lines

The orders that lines are put into.

* `Ranking`: what is compared of two texts, and how.
* `Ranking.compare`: the order of two texts.
* `compareVersions`: the order in which numbers within names count.
-/

namespace LintRun.Shell

/-- The order of two texts by their bytes. -/
def compareBytes : List UInt8 → List UInt8 → Ordering
  | [], [] => .eq
  | [], _ => .lt
  | _, [] => .gt
  | a :: as, b :: bs => if a < b then .lt else if b < a then .gt else compareBytes as bs

namespace Order

/-- Whether a byte is a blank within a line. -/
def isGap (b : UInt8) : Bool := b = 32 || b = 9 || b = 10

def charOf (b : UInt8) : Char := Char.ofNat b.toNat

def isDigit (b : UInt8) : Bool := Text.isAsciiDigit (charOf b)
def isLetter (b : UInt8) : Bool := Text.isAsciiLetter (charOf b)
def isWordByte (b : UInt8) : Bool := isDigit b || isLetter b

def upper (b : UInt8) : UInt8 := if 97 ≤ b && b ≤ 122 then b - 32 else b

/-- A decimal number at the front of a text: its sign, its digits, and how many of them are behind the point. -/
def decimal (line : List UInt8) : Bool × List Char × Nat :=
  let cs := (line.dropWhile isGap).map charOf
  let (negative, cs) := match cs with
    | '-' :: rest => (true, rest)
    | cs => (false, cs)
  let (digits, places, _) := Floating.takePointed 10 cs
  (negative, digits, places)

/-- The order of two decimal numbers. -/
def compareDecimals (a b : List UInt8) : Ordering :=
  let (an, ad, ap) := decimal a
  let (bn, bd, bp) := decimal b
  let x : Int := Text.numberOf 10 ad * Int.pow 10 bp
  let y : Int := Text.numberOf 10 bd * Int.pow 10 ap
  compare (if an then -x else x) (if bn then -y else y)

/-- The rank of the unit behind a number; negative numbers have the ranks below zero. -/
def unitRank (line : List UInt8) : Int :=
  let (negative, digits, places) := decimal line
  if digits.all (· = '0') then 0
  else
    let cs := (line.dropWhile isGap).map charOf
    let cs := if negative then cs.drop 1 else cs
    let taken := digits.length + if places = 0 && (cs.drop digits.length).head? ≠ some '.' then 0 else 1
    let rank : Nat := match (cs.drop taken).head? with
      | some 'k' => 1
      | some c => match "KMGTPEZYRQ".toList.idxOf? c with
        | some i => i + 1
        | none => 0
      | none => 0
    if negative then -(rank : Int) else rank

/-- The rank of a number in any notation: none, no number, least, number, greatest. -/
def compareGeneral (a b : List UInt8) : Ordering :=
  let key (line : List UInt8) : Nat × Int × Nat :=
    match Floating.read 64 (line.map charOf) with
    | none => (0, 0, 1)
    | some (x, _) =>
      match x.special with
      | some "nan" => (1, 0, 1)
      | some _ => (if x.negative then 2 else 4, 0, 1)
      | none =>
        let (n, d) := x.ratio
        (3, if x.negative then -(n : Int) else n, d)
  let (i, n, d) := key a
  let (j, m, e) := key b
  (compare i j).then (compare (n * e) (m * d))

/-- The number of the month that a text starts with. -/
def month (line : List UInt8) : Nat :=
  let name := String.ofList (((line.dropWhile isGap).take 3).map fun b => charOf (upper b))
  match ["JAN", "FEB", "MAR", "APR", "MAY", "JUN", "JUL", "AUG", "SEP", "OCT", "NOV", "DEC"].idxOf? name with
  | some i => i + 1
  | none => 0

/-- The weight of a byte in names with numbers; the end of a name is lighter than most. -/
def weight (b : Option UInt8) : Int :=
  match b with
  | none => -1
  | some b => if isDigit b then 0 else if isLetter b then b.toNat else if b = 126 then -2 else (b.toNat : Int) + 256

/-- The order of what stands in front of numbers, and the two rests. -/
def compareMarks : Nat → List UInt8 → List UInt8 → Ordering × List UInt8 × List UInt8
  | 0, as, bs => (.eq, as, bs)
  | fuel + 1, as, bs =>
    let isMark (cs : List UInt8) : Bool := (cs.head?).any fun b => !isDigit b
    if !(isMark as || isMark bs) then (.eq, as, bs)
    else
      match compare (weight as.head?) (weight bs.head?) with
      | .eq => compareMarks fuel (as.drop 1) (bs.drop 1)
      | o => (o, as, bs)

/-- The order of two names in which numbers count as such. -/
def compareNumbered : Nat → List UInt8 → List UInt8 → Ordering
  | 0, _, _ => .eq
  | fuel + 1, as, bs =>
    if as.isEmpty && bs.isEmpty then .eq
    else
      let (o, as, bs) := compareMarks (as.length + bs.length + 1) as bs
      if o ≠ .eq then o
      else
        let a := as.dropWhile (· = 48)
        let b := bs.dropWhile (· = 48)
        let x := a.takeWhile isDigit
        let y := b.takeWhile isDigit
        match (compare x.length y.length).then (compareBytes x y) with
        | .eq => compareNumbered fuel (a.drop x.length) (b.drop y.length)
        | o => o

/-- How much of a name stands in front of its endings, which start with a point and a letter. -/
def stemLength (name : Array UInt8) : Nat :=
  let endings (i : Nat) : Bool :=
    -- what follows is nothing but endings
    let rest := name.toList.drop i
    let parts := Text.splitAt (46 : UInt8) (rest.drop 1)
    rest.head? = some 46 && parts.all fun p =>
      (p.head?).any (fun b => isLetter b || b = 126) && p.all fun b => isWordByte b || b = 126
  ((List.range name.size).find? fun i => i ≠ 0 && endings i).getD name.size

/-- The order in which numbers within names count; endings count last. -/
def compareVersions (a b : List UInt8) : Ordering :=
  let dots (n : List UInt8) : Nat := if n.isEmpty then 0 else if n = [46] then 1 else if n = [46, 46] then 2
    else if n.head? = some 46 then 3 else 4
  match compare (dots a) (dots b) with
  | .eq =>
    let i := stemLength a.toArray
    let j := stemLength b.toArray
    (compareNumbered (a.length + b.length + 1) (a.take i) (b.take j)).then
      (compareNumbered (a.length + b.length + 1) a b)
  | o => o

end Order

/-- What counts in the order of two texts. -/
structure Ranking where
  /-- Blanks in front of the first and of the last part are passed over. -/
  skipsStart : Bool := false
  skipsEnd : Bool := false
  /-- Only letters, digits and blanks count; only what can be seen counts. -/
  dictionary : Bool := false
  visible : Bool := false
  /-- The case of letters does not matter. -/
  folded : Bool := false
  numeric : Bool := false
  general : Bool := false
  human : Bool := false
  month : Bool := false
  version : Bool := false
  random : Bool := false
  reversed : Bool := false
  deriving DecidableEq, Repr

namespace Ranking

/-- A ranking with the option of a letter. -/
def with? (r : Ranking) : Char → Option Ranking
  | 'b' => some { r with skipsStart := true, skipsEnd := true }
  | 'd' => some { r with dictionary := true, visible := false }
  | 'f' => some { r with folded := true }
  | 'g' => some { r with general := true }
  | 'h' => some { r with human := true }
  | 'i' => some { r with visible := !r.dictionary }
  | 'M' => some { r with month := true }
  | 'n' => some { r with numeric := true }
  | 'r' => some { r with reversed := true }
  | 'R' => some { r with random := true }
  | 'V' => some { r with version := true }
  | _ => none

/-- The letters of the options that exclude one another, if they do. -/
def conflict? (r : Ranking) : Option String :=
  let on := [(r.numeric), r.general, r.human, r.month, r.version || r.random || r.dictionary || r.visible]
  if (on.filter id).length ≤ 1 then none
  else
    let letters := [(r.dictionary, 'd'), (r.folded, 'f'), (r.general, 'g'), (r.human, 'h'), (r.visible, 'i'),
      (r.month, 'M'), (r.numeric, 'n'), (r.random, 'R'), (r.version, 'V')]
    some (String.ofList (letters.filterMap fun (b, c) => if b then some c else none))

/-- What counts of a text for an order by bytes. -/
def counted (r : Ranking) (text : List UInt8) : List UInt8 :=
  let kept := if r.dictionary then text.filter fun b => Order.isWordByte b || Order.isGap b
    else if r.visible then text.filter fun b => 32 ≤ b && b < 127
    else text
  if r.folded then kept.map Order.upper else kept

/-- The order of two texts. -/
def compare (r : Ranking) (a b : List UInt8) : Ordering :=
  let o :=
    if r.numeric then Order.compareDecimals a b
    else if r.general then Order.compareGeneral a b
    else if r.human then (Ord.compare (Order.unitRank a) (Order.unitRank b)).then (Order.compareDecimals a b)
    else if r.month then Ord.compare (Order.month a) (Order.month b)
    else if r.version then Order.compareVersions (r.counted a) (r.counted b)
    else compareBytes (r.counted a) (r.counted b)
  if r.reversed then o.swap else o

end Ranking
end LintRun.Shell
