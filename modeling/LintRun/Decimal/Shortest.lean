import LintRun.Decimal.Binary64

/-!
# Decimal — Shortest digits

The decimal digits that stand for a double-precision number.

* `shortest`: the fewest digits that read back as the number; of two grids' neighbours that do, the
  nearer one, a tie to the even digit.
* `rounded`: the value to a fixed count of significant digits, correctly rounded.
-/

namespace LintRun.Binary64

/-- A decimal: `digits * 10 ^ exponent`. -/
structure Digits where
  digits : Nat
  exponent : Int
  deriving DecidableEq, Repr

/-- The exact magnitude of a finite number as a quotient. -/
def ratio (significand : Nat) (exponent : Int) : Nat × Nat :=
  if 0 ≤ exponent then (significand * Nat.pow 2 exponent.toNat, 1) else (significand, Nat.pow 2 (-exponent).toNat)

/-- The quotient divided by `10 ^ scale`. -/
def scaleDown (num den : Nat) (scale : Int) : Nat × Nat :=
  if 0 ≤ scale then (num, den * Nat.pow 10 scale.toNat) else (num * Nat.pow 10 (-scale).toNat, den)

/-- The least `k ≤ start + steps` for which the quotient is below `10 ^ k`, sought upwards from `start`. -/
def integerDigits (num den : Nat) : Nat → Int → Int
  | 0, k => k
  | steps + 1, k =>
    let (n, d) := scaleDown num den k
    if n < d then k else integerDigits num den steps (k + 1)

/-- The count of digits before the decimal point: the quotient is below `10 ^ k` but not below
`10 ^ (k - 1)`. The binary logarithm gives a start that is at most two too small. -/
def pointPosition (num den : Nat) : Int :=
  let l : Int := (num.log2 : Int) - (den.log2 : Int)
  integerDigits num den 4 ((l - 1) * 30103 / 100000)

/-- Without the zeros at the end of the digits. -/
def stripZeros : Nat → Digits → Digits
  | 0, d => d
  | fuel + 1, d =>
    if d.digits ≠ 0 ∧ d.digits % 10 = 0 then stripZeros fuel ⟨d.digits / 10, d.exponent + 1⟩ else d

/-- The neighbours of the value on the grid of multiples of `10 ^ scale` that read back as the number `x`,
the nearer one first. -/
def gridHits (x : Binary64) (num den : Nat) (scale : Int) : List Digits :=
  let (n, d) := scaleDown num den scale
  let lower := n / d
  let near := roundDiv n d
  let far := if near = lower then lower + 1 else lower
  ([near, far].map fun k => Digits.mk k scale).filter fun c => ofDecimal x.isNegative c.digits c.exponent == x

/-- Tries grids of `count`, `count + 1`, … digits. -/
def searchGrids (x : Binary64) (num den : Nat) (point : Int) : Nat → Nat → Option Digits
  | 0, _ => none
  | tries + 1, count =>
    match gridHits x num den (point - count) with
    | best :: _ => some best
    | [] => searchGrids x num den point tries (count + 1)

/-- The fewest digits that read back as the finite number `x`, seventeen at most; the exact value's digits
stand in if none did. -/
def shortest (x : Binary64) (significand : Nat) (exponent : Int) : Digits :=
  if significand = 0 then ⟨0, 0⟩
  else
    let (num, den) := ratio significand exponent
    match searchGrids x num den (pointPosition num den) 17 1 with
    | some d => stripZeros 20 d
    | none => if 0 ≤ exponent then ⟨num, 0⟩ else ⟨significand * Nat.pow 5 (-exponent).toNat, exponent⟩

/-- The value to `count` significant digits, a tie to the even digit. -/
def rounded (significand : Nat) (exponent : Int) (count : Nat) : Digits :=
  if significand = 0 then ⟨0, 0⟩
  else
    let (num, den) := ratio significand exponent
    let scale := pointPosition num den - count
    let (n, d) := scaleDown num den scale
    ⟨roundDiv n d, scale⟩

/-- The number nearest to the value rounded to `places` decimal places, a tie to the even digit. -/
def roundToPlaces (x : Binary64) (places : Nat) : Binary64 :=
  match x.view with
  | .finite negative m e =>
    let (num, den) := ratio m e
    ofDecimal negative (roundDiv (num * Nat.pow 10 places) den) (-(places : Int))
  | _ => x

end LintRun.Binary64
