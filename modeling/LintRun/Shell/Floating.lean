import LintRun.Text.Digit

/-!
# Shell — Numbers with a point

Binary numbers with a point as the formats of a shell show them. How many bits are kept is up to the caller.

* `Floating.read`: the number at the front of a text, and what is left of the text.
* `Floating.fixed`, `Floating.scientific`, `Floating.general`, `Floating.hexadecimal`: its digits.
-/

namespace LintRun.Shell

/-- A whole number times a power of two, or something beyond all numbers. -/
structure Floating where
  negative : Bool := false
  special : Option String := none
  mantissa : Nat := 0
  exponent : Int := 0
  deriving DecidableEq, Repr

namespace Floating

/-- The quotient, rounded to the nearest number, of two equally near ones to the even one. -/
def roundedQuotient (n d : Nat) : Nat :=
  let q := n / d
  let r := 2 * (n % d)
  if d < r || (r = d && q % 2 = 1) then q + 1 else q

/-- The number of bits of a number. -/
def bitLength (n : Nat) : Nat := if n = 0 then 0 else Nat.log2 n + 1

/-- A ratio, rounded to so many bits. -/
def ofRatio (bits : Nat) (n d : Nat) : Nat × Int :=
  if n = 0 || d = 0 then (0, 0)
  else
    let quotient (k : Int) : Nat × Nat := if 0 ≤ k then (n, d * Nat.pow 2 k.toNat) else (n * Nat.pow 2 (-k).toNat, d)
    let k : Int := (bitLength n : Int) - (bitLength d : Int) - (bits : Int)
    let (a, b) := quotient k
    let k := if Nat.pow 2 bits ≤ a / b then k + 1 else k
    let (a, b) := quotient k
    (roundedQuotient a b, k)

/-- Digits with a point among them: the digits, how many of them stand behind the point, and the rest. -/
def takePointed (base : Nat) (cs : List Char) : List Char × Nat × List Char :=
  let isDigit (c : Char) : Bool := (Text.digitIn? base c).isSome
  let whole := cs.takeWhile isDigit
  match cs.drop whole.length with
  | '.' :: rest =>
    let part := rest.takeWhile isDigit
    (whole ++ part, part.length, rest.drop part.length)
  | rest => (whole, 0, rest)

/-- An exponent after its letter, and the rest. -/
def takeExponent (letter : Char) (cs : List Char) : Int × List Char :=
  match cs with
  | c :: rest =>
    let (negative, body) := Text.takeSign rest
    let digits := body.takeWhile Text.isAsciiDigit
    if c.toLower = letter && !digits.isEmpty then
      let n : Int := min (Text.numberOf 10 digits) 20000
      (if negative then -n else n, body.drop digits.length)
    else (0, cs)
  | [] => (0, cs)

/-- Whether a text starts with a word, in whatever case. -/
def startsWithWord (word : String) (cs : List Char) : Bool := word.toList.isPrefixOf (cs.map Char.toLower)

/-- The number at the front of a text, rounded to so many bits, and the rest. -/
def read (bits : Nat) (text : List Char) : Option (Floating × List Char) :=
  let (negative, cs) := Text.takeSign (text.dropWhile Text.isPlainBlank)
  let ratio (base : Nat) (n : Nat) (e : Int) : Floating :=
    let (m, k) := if 0 ≤ e then ofRatio bits (n * Nat.pow base e.toNat) 1 else ofRatio bits n (Nat.pow base (-e).toNat)
    { negative, mantissa := m, exponent := k }
  if startsWithWord "infinity" cs then some ({ negative, special := some "inf" }, cs.drop 8)
  else if startsWithWord "inf" cs then some ({ negative, special := some "inf" }, cs.drop 3)
  else if startsWithWord "nan" cs then some ({ negative, special := some "nan" }, cs.drop 3)
  else
    let hex := startsWithWord "0x" cs && !(takePointed 16 (cs.drop 2)).1.isEmpty
    if hex then
      let (digits, places, rest) := takePointed 16 (cs.drop 2)
      let (e, rest) := takeExponent 'p' rest
      some (ratio 2 (Text.numberOf 16 digits) (e - 4 * places), rest)
    else
      let (digits, places, rest) := takePointed 10 cs
      if digits.isEmpty then none
      else
        let (e, rest) := takeExponent 'e' rest
        some (ratio 10 (Text.numberOf 10 digits) (e - places), rest)

/-- The number as a ratio. -/
def ratio (x : Floating) : Nat × Nat :=
  if 0 ≤ x.exponent then (x.mantissa * Nat.pow 2 x.exponent.toNat, 1) else (x.mantissa, Nat.pow 2 (-x.exponent).toNat)

def digitsOf (n : Nat) : List Char := Nat.toDigits 10 n

/-- Digits with a point in front of the last ones. -/
def pointed (n places : Nat) (pointAlways : Bool) : List Char :=
  let ds := digitsOf n
  let ds := List.replicate (places + 1 - ds.length) '0' ++ ds
  let whole := ds.take (ds.length - places)
  whole ++ (if places = 0 && !pointAlways then [] else '.' :: ds.drop whole.length)

/-- So many digits behind the point. -/
def fixed (x : Floating) (places : Nat) (pointAlways : Bool) : List Char :=
  let (n, d) := x.ratio
  pointed (roundedQuotient (n * Nat.pow 10 places) d) places pointAlways

/-- The digits of the number, so many behind the first one, and the power of ten of the first one. -/
def decimalDigits (x : Floating) (places : Nat) : Nat × Int :=
  let (n, d) := x.ratio
  if n = 0 then (0, 0)
  else
    let e : Int :=
      if d ≤ n then ((digitsOf (n / d)).length : Int) - 1
      else
        let k := (digitsOf (d / n)).length - 1
        if d ≤ n * Nat.pow 10 k then -(k : Int) else -((k : Int) + 1)
    let shift : Int := (places : Int) - e
    let m :=
      if 0 ≤ shift then roundedQuotient (n * Nat.pow 10 shift.toNat) d
      else roundedQuotient n (d * Nat.pow 10 (-shift).toNat)
    if m = Nat.pow 10 (places + 1) then (Nat.pow 10 places, e + 1) else (m, e)

def exponentText (e : Int) : List Char :=
  let ds := digitsOf e.natAbs
  (if e < 0 then '-' else '+') :: (if ds.length < 2 then '0' :: ds else ds)

/-- One digit in front of the point, and a power of ten. -/
def scientific (x : Floating) (places : Nat) (pointAlways : Bool) : List Char :=
  let (m, e) := x.decimalDigits places
  pointed m places pointAlways ++ 'e' :: exponentText e

/-- The digits without zeros at the end behind the point. -/
def trimmed (cs : List Char) : List Char :=
  if cs.contains '.' then
    let kept := cs.reverse.dropWhile (· = '0')
    (if kept.head? = some '.' then kept.drop 1 else kept).reverse
  else cs

/-- So many digits in all, in the form that suits the number. -/
def general (x : Floating) (size : Nat) (whole : Bool) : List Char :=
  let p := if size = 0 then 1 else size
  let (m, e) := x.decimalDigits (p - 1)
  let trim (cs : List Char) : List Char := if whole then cs else trimmed cs
  if -4 ≤ e && e < (p : Int) then trim (x.fixed ((p : Int) - 1 - e).toNat whole)
  else trim (pointed m (p - 1) whole) ++ 'e' :: exponentText e

/-- The bits of the number in hexadecimal digits, `lead` of them in front of the point. -/
def hexadecimal (x : Floating) (lead : Nat) : List Char :=
  let mark := ['0', 'x']
  if x.mantissa = 0 then mark ++ "0p+0".toList
  else
    let size := bitLength x.mantissa
    let fill := (4 - (size - lead) % 4) % 4
    let m := x.mantissa * Nat.pow 2 fill
    let ds := Nat.toDigits 16 m
    let behind := (ds.drop 1).reverse.dropWhile (· = '0')
    let e := x.exponent + (size : Int) - (lead : Int)
    mark ++ ds.take 1 ++ (if behind.isEmpty then [] else '.' :: behind.reverse) ++
      'p' :: (if e < 0 then '-' else '+') :: digitsOf e.natAbs

end Floating
end LintRun.Shell
