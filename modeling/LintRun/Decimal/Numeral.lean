import LintRun.Text.Digit
import LintRun.Decimal.Binary64

/-!
# Decimal — Numerals

Reading numbers from text.

* `Numeral.scan` splits a decimal numeral into its parts; `Numeral.value` rounds it once.
* `ofNumeral?` reads what a person may type for a number, with the names of the infinities.
-/

namespace LintRun

/-- A decimal numeral: digits before and after the point, and the exponent written after it. -/
structure Numeral where
  negative : Bool
  whole : List Char
  fraction : List Char
  exponent : Int
  deriving Repr

namespace Numeral

/-- The number nearest to what the numeral says. -/
def value (n : Numeral) : Binary64 :=
  Binary64.ofDecimal n.negative (Text.numberOf 10 (n.whole ++ n.fraction)) (n.exponent - n.fraction.length)

/-- The exponent after an `e`: a sign, and at least one digit. -/
def scanExponent? : List Char → Option Int
  | e :: rest =>
    if e = 'e' || e = 'E' then
      let (negative, ds) := Text.takeSign rest
      if ds.isEmpty || !ds.all Text.isAsciiDigit then none
      else
        let n : Int := Text.numberOf 10 ds
        some (if negative then -n else n)
    else none
  | [] => some 0

/-- An unsigned decimal: digits, perhaps a point and digits, perhaps an exponent; at least one digit before
the exponent. -/
def scan? (negative : Bool) (text : List Char) : Option Numeral :=
  let whole := text.takeWhile Text.isAsciiDigit
  let afterWhole := text.dropWhile Text.isAsciiDigit
  let (fraction, tail) := match afterWhole with
    | '.' :: rest => (rest.takeWhile Text.isAsciiDigit, rest.dropWhile Text.isAsciiDigit)
    | rest => ([], rest)
  if whole.isEmpty && fraction.isEmpty then none
  else (scanExponent? tail).map fun e => ⟨negative, whole, fraction, e⟩

end Numeral

namespace Text

/-- The text without its underscores, if each of them stands between two digits. -/
def dropUnderscores? (afterDigit : Bool) : List Char → Option (List Char)
  | [] => some []
  | '_' :: rest =>
    match rest with
    | c :: _ => if afterDigit && isAsciiDigit c then dropUnderscores? false rest else none
    | [] => none
  | c :: rest => (dropUnderscores? (isAsciiDigit c) rest).map (c :: ·)

/-- ASCII capitals made small. -/
def lowerAscii (text : List Char) : List Char := text.map Char.toLower

end Text

namespace Binary64

/-- The number that a person typed: a decimal numeral, or the name of an infinity or of what is no number. -/
def ofNumeral? (text : List Char) : Option Binary64 := do
  let body ← Text.dropUnderscores? false (Text.trimPlain (Text.normalizeNumeral text))
  let (negative, unsigned) := Text.takeSign body
  let name := String.ofList (Text.lowerAscii unsigned)
  if name = "inf" || name = "infinity" then some (infinity negative)
  else if name = "nan" then some nan
  else (Numeral.scan? negative unsigned).map Numeral.value

end Binary64
end LintRun
