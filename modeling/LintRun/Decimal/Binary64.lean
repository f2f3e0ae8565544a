/-!
# Decimal — Binary64

Double-precision numbers as 64-bit words, with every operation in exact natural-number arithmetic.

* A finite number is `± significand * 2 ^ exponent`, and `ofRatio` rounds a quotient of naturals to the
  nearest number, a tie going to the even significand.
* `ofDecimal` reads `digits * 10 ^ exponent` with one such rounding.
-/

namespace LintRun

/-- A double-precision number, as its word: sign, eleven exponent bits, fifty-two fraction bits. -/
structure Binary64 where
  bits : UInt64
  deriving DecidableEq, BEq, Repr

namespace Binary64

/-- What a word stands for. -/
inductive View
  | nan
  | infinite (negative : Bool)
  | finite (negative : Bool) (significand : Nat) (exponent : Int)
  deriving DecidableEq, Repr

/-- The word of positive infinity, the first one past the finite magnitudes. -/
def infinityWord : Nat := 0x7FF * Nat.pow 2 52

/-- The number with the given sign and the given low sixty-three bits. -/
def ofMagnitude (negative : Bool) (word : Nat) : Binary64 :=
  ⟨UInt64.ofNat (if negative then Nat.pow 2 63 + word else word)⟩

/-- The low sixty-three bits. -/
def magnitude (x : Binary64) : Nat := x.bits.toNat % Nat.pow 2 63

/-- The sign bit. -/
def isNegative (x : Binary64) : Bool := Nat.pow 2 63 ≤ x.bits.toNat

def nan : Binary64 := ofMagnitude false (0x7FF8 * Nat.pow 2 48)

/-- What is no number and carries a mark. -/
def nanOf (mark : Nat) : Binary64 := ofMagnitude false (0x7FF8 * Nat.pow 2 48 + mark % Nat.pow 2 48)
def infinity (negative : Bool) : Binary64 := ofMagnitude negative infinityWord
def zero (negative : Bool) : Binary64 := ofMagnitude negative 0

/-- The exponent field is zero below the normal numbers, where the unit is `2 ^ -1074` as in the first
binade. -/
def view (x : Binary64) : View :=
  let field : Nat := x.magnitude / Nat.pow 2 52
  let fraction : Nat := x.magnitude % Nat.pow 2 52
  if field = 0x7FF then
    if fraction = 0 then .infinite x.isNegative else .nan
  else if field = 0 then .finite x.isNegative fraction (-1074)
  else .finite x.isNegative (Nat.pow 2 52 + fraction) ((field : Int) - 1075)

def isNaN (x : Binary64) : Bool := infinityWord < x.magnitude

/-- Whether the number is strictly greater than zero; not a number is not. -/
def isPositive (x : Binary64) : Bool :=
  !x.isNegative && 0 < x.magnitude && !x.isNaN

/-- Whether the number is zero or less; not a number is not. -/
def isNonPositive (x : Binary64) : Bool :=
  x.magnitude = 0 || (x.isNegative && !x.isNaN)

/-- The same number with the other sign. -/
def negate (x : Binary64) : Binary64 := ofMagnitude (!x.isNegative) x.magnitude

/-- The quotient rounded to the nearest integer, a tie to the even one. -/
def roundDiv (num den : Nat) : Nat :=
  let q := num / den
  let twice := 2 * (num % den)
  if den < twice || (den = twice && q % 2 = 1) then q + 1 else q

/-- The exponent of the unit in which a quotient between `2 ^ k` and `2 ^ (k + 1)` has fifty-three bits,
but never below that of the smallest number. -/
def unitExponent (num den : Nat) : Int :=
  let guess : Int := (num.log2 : Int) - (den.log2 : Int) - 52
  let reached := if 0 ≤ guess + 52 then den * Nat.pow 2 (guess + 52).toNat ≤ num
    else den ≤ num * Nat.pow 2 (-(guess + 52)).toNat
  max (if reached then guess else guess - 1) (-1074)

/-- The number nearest to `num / den`, a tie to the even significand; a magnitude past the largest finite
one is infinite. The word of a magnitude is `(exponent + 1074) * 2 ^ 52 + significand`, also when
rounding up reaches the next power of two. -/
def ofRatio (negative : Bool) (num den : Nat) : Binary64 :=
  if num = 0 then zero negative
  else
    let e := unitExponent num den
    let m := if 0 ≤ e then roundDiv num (den * Nat.pow 2 e.toNat) else roundDiv (num * Nat.pow 2 (-e).toNat) den
    let word := (e + 1074).toNat * Nat.pow 2 52 + m
    if infinityWord ≤ word then infinity negative else ofMagnitude negative word

/-- The exact value `digits * 10 ^ exponent`, rounded once. Exponents far outside the range of the format
are settled by the count of digits alone. -/
def ofDecimal (negative : Bool) (digits : Nat) (exponent : Int) : Binary64 :=
  if digits = 0 then zero negative
  else
    let top : Int := exponent + (Nat.toDigits 10 digits).length
    if 400 < top then infinity negative
    else if top < -400 then zero negative
    else if 0 ≤ exponent then ofRatio negative (digits * Nat.pow 10 exponent.toNat) 1
    else ofRatio negative digits (Nat.pow 10 (-exponent).toNat)

/-- The integer as a number, if it does not round past the largest finite one. -/
def ofInt? (i : Int) : Option Binary64 :=
  let x := ofRatio (i < 0) i.natAbs 1
  if x.magnitude = infinityWord then none else some x

/-- The exact value of a finite number as a signed numerator over a power of two: `n / 2 ^ 1074`. -/
def scaled (x : Binary64) : Int :=
  match x.view with
  | .finite negative m e => (if negative then -1 else 1) * (m * Nat.pow 2 (e + 1074).toNat : Nat)
  | _ => 0

/-- A number in millionths, rounded up; zero if it is negative. -/
def millionths? (x : Binary64) : Option Nat :=
  match x.view with
  | .finite _ _ _ => some ((x.scaled.toNat * 1000000 + Nat.pow 2 1074 - 1) / Nat.pow 2 1074)
  | .infinite true => some 0
  | .infinite false | .nan => none

/-- The number nearest to `n / 2 ^ k`. -/
def ofScaled (n : Int) (k : Nat) : Binary64 := ofRatio (n < 0) n.natAbs (Nat.pow 2 k)

/-- The sum, rounded once. -/
def add (x y : Binary64) : Binary64 :=
  match x.view, y.view with
  | .nan, _ | _, .nan => nan
  | .infinite s, .infinite t => if s = t then x else nan
  | .infinite _, _ => x
  | _, .infinite _ => y
  | .finite s _ _, .finite t _ _ =>
    let n := x.scaled + y.scaled
    if n = 0 then zero (s && t) else ofScaled n 1074

/-- The product, rounded once. -/
def mul (x y : Binary64) : Binary64 :=
  let negative := x.isNegative != y.isNegative
  match x.view, y.view with
  | .nan, _ | _, .nan => nan
  | .infinite _, .finite _ m _ | .finite _ m _, .infinite _ => if m = 0 then nan else infinity negative
  | .infinite _, .infinite _ => infinity negative
  | .finite _ m _, .finite _ n _ =>
    if m = 0 || n = 0 then zero negative
    else
      let p := x.scaled * y.scaled
      ofRatio negative p.natAbs (Nat.pow 2 2148)

end Binary64
end LintRun
