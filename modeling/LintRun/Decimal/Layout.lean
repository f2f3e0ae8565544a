import LintRun.Decimal.Shortest

/-!
# Decimal — Layout

How the digits of a number are set out as text: positional or with an exponent, which zeros are kept, and
what stands for an infinite number. A `Layout` holds the decisions, `Layout.write` carries them out.

* `plain` is the layout of values in messages and files, with the shortest digits that read back.
* `general` is the layout of seconds in messages, with six significant digits.
-/

namespace LintRun.Binary64

/-- The decisions of a number format. -/
structure Layout where
  /-- The smallest exponent of the first digit that is still written positionally. -/
  leastPositional : Int
  /-- The first exponent of the first digit that is no longer written positionally. -/
  pastPositional : Int
  /-- Whether an integer written positionally ends in a point and a zero. -/
  keepsPoint : Bool
  /-- The text of an infinite magnitude. -/
  infinite : String
  /-- The text of what is not a number. -/
  notANumber : String

/-- Positional from `0.0001` to below `10 ^ 16`, integers with `.0`. -/
def plain : Layout := ⟨-4, 16, true, "inf", "nan"⟩

/-- Positional from `0.0001` to below a million, integers without a point. -/
def general : Layout := ⟨-4, 6, false, "inf", "nan"⟩

/-- The plain layout with the words that data files use. -/
def dataFile : Layout := { plain with infinite := "Infinity", notANumber := "NaN" }

def digitsText (n : Nat) : List Char := Nat.toDigits 10 n

/-- A decimal exponent has a sign and at least two digits. -/
def exponentText (e : Int) : List Char :=
  let ds := digitsText e.natAbs
  'e' :: (if e < 0 then '-' else '+') :: (if ds.length < 2 then '0' :: ds else ds)

/-- The digits with the point after the first `before` of them, zeros filling up on either side. -/
def positional (layout : Layout) (ds : List Char) (before : Int) : List Char :=
  if before ≤ 0 then '0' :: '.' :: (List.replicate (-before).toNat '0' ++ ds)
  else
    let whole := ds.take before.toNat ++ List.replicate (before.toNat - ds.length) '0'
    match ds.drop before.toNat with
    | [] => whole ++ (if layout.keepsPoint then ['.', '0'] else [])
    | fraction => whole ++ '.' :: fraction

/-- A nonnegative decimal in the given layout. -/
def Layout.writeDigits (layout : Layout) (d : Digits) : List Char :=
  let d := stripZeros 400 d
  let ds := digitsText d.digits
  let first : Int := if d.digits = 0 then 0 else d.exponent + ds.length - 1
  if layout.leastPositional ≤ first && first < layout.pastPositional then positional layout ds (first + 1)
  else
    match ds with
    | [] => []
    | [c] => c :: exponentText first
    | c :: rest => c :: '.' :: (rest ++ exponentText first)

/-- The text of a number in the given layout, its digits chosen by `choose`. -/
def Layout.write (layout : Layout) (choose : Nat → Int → Digits) (x : Binary64) : String :=
  match x.view with
  | .nan => layout.notANumber
  | .infinite negative => if negative then "-" ++ layout.infinite else layout.infinite
  | .finite negative m e =>
    let body := layout.writeDigits (choose m e)
    String.ofList (if negative then '-' :: body else body)

/-- The number as messages show it: the fewest digits that read back. -/
def text (x : Binary64) : String := plain.write x.shortest x

/-- The number as data files hold it. -/
def dataText (x : Binary64) : String := dataFile.write x.shortest x

/-- The number with six significant digits. -/
def generalText (x : Binary64) : String := general.write (fun m e => rounded m e 6) x

end LintRun.Binary64
