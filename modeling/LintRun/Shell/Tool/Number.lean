import LintRun.Shell.Format
import LintRun.Shell.Regex
import LintRun.Shell.Tool.Basic

/-!
# Shell — Programs of the system: numbers

* `sequence`: numbers one after another.
* `expression`: the value of an expression in the arguments.
-/

namespace LintRun.Shell
namespace Tool

/-! ### Sequences -/

/-- A decimal numeral: its digits as an integer, how many of them stand behind the point, and how wide it was
written. -/
structure Decimals where
  digits : Int
  places : Nat
  width : Nat
  deriving DecidableEq, Repr

/-- The decimal numeral that a text is. -/
def decimals? (text : String) : Option Decimals :=
  let cs := text.toList.dropWhile Text.isPlainBlank
  let (negative, rest) := Text.takeSign cs
  let whole := rest.takeWhile Text.isAsciiDigit
  let (part, rest) := match rest.drop whole.length with
    | '.' :: more =>
      let part := more.takeWhile Text.isAsciiDigit
      (part, more.drop part.length)
    | rest => ([], rest)
  let exponent : Option Int := match rest with
    | [] => some 0
    | c :: more =>
      let (down, ds) := Text.takeSign more
      if (c = 'e' || c = 'E') && !ds.isEmpty && ds.all Text.isAsciiDigit && ds.length < 4 then
        some (if down then -(Text.numberOf 10 ds : Int) else Text.numberOf 10 ds)
      else none
  if whole.isEmpty && part.isEmpty then none
  else exponent.map fun e =>
    let n : Int := Text.numberOf 10 (whole ++ part)
    let n := if negative then -n else n
    let places : Int := part.length - e
    let width := (if negative then 1 else 0) + max 1 whole.length + (if part.isEmpty then 0 else part.length + 1)
    if places < 0 then ⟨n * Int.pow 10 (-places).toNat, 0, width + (-places).toNat⟩ else ⟨n, places.toNat, width⟩

/-- The integer that a numeral is with so many digits behind its point. -/
def Decimals.scaled (d : Decimals) (places : Nat) : Int := d.digits * Int.pow 10 (places - d.places)

/-- An integer with a point before so many of its digits. -/
def pointed (places : Nat) (n : Int) : String :=
  let digits := toString n.natAbs
  let digits := String.ofList (List.replicate (places + 1 - digits.length) '0') ++ digits
  let whole := (digits.take (digits.length - places)).toString
  let sign := if n < 0 then "-" else ""
  if places = 0 then sign ++ whole else sign ++ whole ++ "." ++ (digits.drop (digits.length - places)).toString

/-- Zeros between the sign and the digits up to a width. -/
def zeroPadded (width : Nat) (text : String) : String :=
  let zeros := String.ofList (List.replicate (width - text.length) '0')
  if text.startsWith "-" then "-" ++ zeros ++ (text.drop 1).toString else zeros ++ text

/-- The conversion of a format if it has none that makes sense for numbers. -/
def badConversion? (format : List Char) : Option Char :=
  let rec go : List Char → Option Char
    | '%' :: '%' :: rest => go rest
    | '%' :: rest =>
      let rest := rest.dropWhile fun c => Text.isAsciiDigit c || "-+ #0.'".toList.contains c
      match rest with
      | c :: _ => if "aefgAEFG".toList.contains c then none else some c
      | [] => none
    | _ :: rest => go rest
    | [] => none
  go format

/-- Numbers one after another. -/
def sequence : Plain := fun arguments => do
  let known := ["f/format=", "s/separator=", "w/equal-width"].map Known.ofText
  -- a negative number is no option
  let isNumber (a : String) : Bool := (decimals? a).isSome
  let front := arguments.takeWhile fun a => !(a.startsWith "-" && isNumber a)
  match readOptions known false (front.length + 1) front with
  | .error text => misuse text
  | .ok (chosen, words) =>
    let words := words ++ arguments.drop front.length
    let bad := words.find? fun w => !isNumber w && w ≠ "inf" && w ≠ "infinity"
    match words, bad with
    | [], _ => misuse "missing operand"
    | _, some w => misuse ("invalid floating point argument: " ++ quotedFor (← get) w)
    | _ :: _ :: _ :: extra :: _, none => misuse ("extra operand " ++ quotedFor (← get) extra)
    | _, none =>
      let number (w : String) : Decimals := (decimals? w).getD ⟨1, 0, 1⟩
      let (first, step, last) := match words with
        | [n] => (number "1", number "1", n)
        | [a, n] => (number a, number "1", n)
        | a :: d :: n :: _ => (number a, number d, n)
        | [] => (number "1", number "1", "0")
      let places := max first.places step.places
      let wide := max places (number last).places
      let a := first.scaled wide
      let d := step.scaled wide
      if d = 0 then misuse ("invalid Zero increment value: " ++ quotedFor (← get) (words.getD 1 ""))
      else
        let endless := last = "inf" || last = "infinity"
        let z := (number last).scaled wide
        let count := if endless then 300000 else (Int.fdiv (z - a) d + 1).toNat
        let shown (n : Int) : String := pointed places (Int.tdiv n (Int.pow 10 (wide - places)))
        let width := if has chosen "w" then max (shown a).length (shown (a + d * (count - 1 : Nat))).length else 0
        let format := value? chosen "f"
        match format.bind fun f => badConversion? f.toList with
        | some c =>
          fail ("format " ++ quotedFor (← get) (format.getD "") ++ " has unknown %" ++ String.singleton c ++
            " directive")
        | none =>
          let text (n : Int) : List UInt8 :=
            match format with
            | some f => (printed .program plainlyQuoted f [pointed wide n]).bytes
            | none => ascii (zeroPadded width (shown n))
          let separator := ascii ((value? chosen "s").getD "\n")
          if count = 0 then pure 0
          else
            let all := (List.range count).map fun i => text (a + d * (i : Nat))
            write 1 ((all.intersperse separator).flatten ++ [10])
            pure 0

/-! ### Expressions -/

/-- What is wrong with an expression. -/
inductive ExpressionFault
  | missing (before : String)
  | extra (word : String)
  | closing (before : String)
  | notInteger
  | division
  | regex (f : RegexFault)
  deriving Repr

/-- The integer that a text is. -/
def integer? (text : String) : Option Int :=
  let cs := text.toList
  match cs with
  | '-' :: ds => if !ds.isEmpty && ds.all Text.isAsciiDigit then some (-(Text.numberOf 10 ds : Int)) else none
  | ds => if !ds.isEmpty && ds.all Text.isAsciiDigit then some (Text.numberOf 10 ds) else none

/-- Whether a value counts as nothing. -/
def isNil (text : String) : Bool := text = "" || integer? text = some 0

/-- What a regular expression matches at the front of a text. -/
def matchFront (text pattern : String) : Except ExpressionFault String :=
  match Regex.read {} pattern.toList with
  | .error f => .error (.regex f)
  | .ok r =>
    let chars := text.toList.toArray
    let hasGroup := 0 < Regex.groupCount r
    let found := (Regex.ends {} chars r 0 []).findSome? fun e =>
      (Regex.groupsBetween {} chars r 0 e []).map fun gs => (e, gs)
    match found with
    | none => .ok (if hasGroup then "" else "0")
    | some (e, gs) =>
      if hasGroup then
        match gs.lookup 1 with
        | some (a, b) => .ok (String.ofList (chars.extract a b).toList)
        | none => .ok ""
      else .ok (toString e)

/-- The operators, from the weakest to the strongest. -/
def operatorLevels : List (List String) :=
  [["|"], ["&"], ["<", "<=", "=", "==", "!=", ">=", ">"], ["+", "-"], ["*", "/", "%"], [":"]]

/-- The value of an operator. -/
def combine (op a b : String) : Except ExpressionFault String :=
  let numbers (f : Int → Int → Except ExpressionFault Int) : Except ExpressionFault String :=
    match integer? a, integer? b with
    | some x, some y => (f x y).map toString
    | _, _ => .error .notInteger
  let compared (test : Ordering → Bool) : Except ExpressionFault String :=
    let order := match integer? a, integer? b with
      | some x, some y => Ord.compare x y
      | _, _ => Text.compareCodes a.toList b.toList
    .ok (if test order then "1" else "0")
  match op with
  | "|" => .ok (if isNil a then (if isNil b then "0" else b) else a)
  | "&" => .ok (if isNil a || isNil b then "0" else a)
  | "<" => compared (· == .lt)
  | "<=" => compared (· != .gt)
  | "=" | "==" => compared (· == .eq)
  | "!=" => compared (· != .eq)
  | ">=" => compared (· != .lt)
  | ">" => compared (· == .gt)
  | "+" => numbers fun x y => .ok (x + y)
  | "-" => numbers fun x y => .ok (x - y)
  | "*" => numbers fun x y => .ok (x * y)
  | "/" => numbers fun x y => if y = 0 then .error .division else .ok (Int.tdiv x y)
  | "%" => numbers fun x y => if y = 0 then .error .division else .ok (Int.tmod x y)
  | _ => matchFront a b

mutual

/-- The value of operators of some levels, and the words that are left. `before` is the word that was read last. -/
def readLevel : Nat → List (List String) → String → List String →
    Except ExpressionFault (String × String × List String)
  | 0, _, before, _ => .error (.missing before)
  | fuel + 1, [], before, words => readPrimary fuel before words
  | fuel + 1, level :: stronger, before, words => do
    let (a, before, rest) ← readLevel fuel stronger before words
    readMore fuel level stronger a before rest

/-- More operands of one level. -/
def readMore : Nat → List String → List (List String) → String → String → List String →
    Except ExpressionFault (String × String × List String)
  | 0, _, _, a, before, rest => .ok (a, before, rest)
  | fuel + 1, level, stronger, a, before, rest =>
    match rest with
    | op :: more =>
      if level.contains op then do
        let (b, before, rest) ← readLevel fuel stronger op more
        readMore fuel level stronger (← combine op a b) before rest
      else .ok (a, before, rest)
    | [] => .ok (a, before, [])

/-- A word, an expression in brackets, or a function of words. -/
def readPrimary : Nat → String → List String → Except ExpressionFault (String × String × List String)
  | 0, before, _ => .error (.missing before)
  | fuel + 1, before, words => do
    let operand (before : String) (words : List String) := readPrimary fuel before words
    match words with
    | [] => .error (.missing before)
    | "(" :: rest => do
      let (a, before, rest) ← readLevel fuel operatorLevels "(" rest
      match rest with
      | ")" :: rest => .ok (a, ")", rest)
      | [] => .error (.closing before)
      | w :: _ => .error (.closing w)
    | "+" :: w :: rest => .ok (w, w, rest)
    | "length" :: rest@(_ :: _) => do
      let (a, before, rest) ← operand "length" rest
      .ok (toString a.length, before, rest)
    | "match" :: rest@(_ :: _) => do
      let (a, before, rest) ← operand "match" rest
      let (b, before, rest) ← operand before rest
      .ok (← matchFront a b, before, rest)
    | "index" :: rest@(_ :: _) => do
      let (a, before, rest) ← operand "index" rest
      let (b, before, rest) ← operand before rest
      let place := a.toList.findIdx? fun c => b.toList.contains c
      .ok (toString ((place.map (· + 1)).getD 0), before, rest)
    | "substr" :: rest@(_ :: _) => do
      let (a, before, rest) ← operand "substr" rest
      let (b, before, rest) ← operand before rest
      let (c, before, rest) ← operand before rest
      let text := match integer? b, integer? c with
        | some p, some n =>
          if p < 1 || n < 1 then "" else String.ofList ((a.toList.drop (p - 1).toNat).take n.toNat)
        | _, _ => ""
      .ok (text, before, rest)
    | w :: rest => .ok (w, w, rest)

end

/-- The value of an expression in the arguments. -/
def expression : Plain := fun arguments => do
  let words := if arguments.head? = some "--" then arguments.drop 1 else arguments
  if words.isEmpty then misuse "missing operand" 2
  else
    let s ← get
    let result := do
      let (value, _, rest) ← readLevel (8 * words.length + 20) operatorLevels "" words
      match rest with
      | [] => .ok value
      | w :: _ => .error (ExpressionFault.extra w)
    match result with
    | .ok value => do
      say 1 value
      pure (if isNil value then 1 else 0)
    | .error f =>
      let text := match f with
        | .missing before => "syntax error: missing argument after " ++ quotedFor s before
        | .extra w => "syntax error: unexpected argument " ++ quotedFor s w
        | .closing before => "syntax error: expecting ')' after " ++ quotedFor s before
        | .notInteger => "non-integer argument"
        | .division => "division by zero"
        | .regex f => f.message
      fail text 2

end Tool
end LintRun.Shell
