import LintRun.Shell.Command
import LintRun.Text.Digit

/-!
# Shell — Braces

Words with alternatives in braces, each of which makes a word of its own.

* `Brace.expand`: the words that a word with braces stands for.
-/

namespace LintRun.Shell
namespace Brace

/-- A character that is not quoted, or a piece of a word that stays whole. -/
inductive BraceUnit
  | char (c : Char)
  | piece (p : Piece)

def unitsOf (pieces : List Piece) : List BraceUnit :=
  pieces.flatMap fun
    | .text cs false => cs.map BraceUnit.char
    | p => [.piece p]

def piecesOf (units : List BraceUnit) : List Piece :=
  joinTexts (units.map fun
    | .char c => .text [c] false
    | .piece p => p)

/-- The parts between commas up to the brace that closes them, and what stands after it. -/
def parts? (depth : Nat) (current : List BraceUnit) : List BraceUnit → Option (List (List BraceUnit) × List BraceUnit)
  | [] => none
  | .char '\x7d' :: rest =>
    if depth = 0 then some ([current.reverse], rest) else parts? (depth - 1) (.char '\x7d' :: current) rest
  | .char ',' :: rest =>
    if depth = 0 then (parts? 0 [] rest).map fun (more, r) => (current.reverse :: more, r)
    else parts? depth (.char ',' :: current) rest
  | u :: rest =>
    let opens := match u with
      | .char '\x7b' => true
      | _ => false
    parts? (if opens then depth + 1 else depth) (u :: current) rest

/-- The text of units that are all unquoted characters. -/
def plainText? (units : List BraceUnit) : Option (List Char) :=
  units.mapM fun
    | .char c => some c
    | .piece _ => none

/-- The integer of a text, and how wide it is written if a zero is in front. -/
def integer? (cs : List Char) : Option (Int × Nat) :=
  let (negative, digits) := Text.takeSign cs
  if digits.isEmpty || !digits.all Text.isAsciiDigit then none
  else
    let n : Int := Text.numberOf 10 digits
    let wide := 1 < digits.length && digits.head? = some '0'
    some (if negative then -n else n, if wide then cs.length else 0)

/-- The numbers from one to another in steps of a size. -/
def steps (first last size : Int) : List Int :=
  let size := if size = 0 then 1 else Int.ofNat size.natAbs
  let count := (Int.ofNat (last - first).natAbs / size).toNat + 1
  (List.range count).map fun (i : Nat) =>
    if first ≤ last then first + size * Int.ofNat i else first - size * Int.ofNat i

/-- A number in so many places. -/
def padded (width : Nat) (n : Int) : List Char :=
  let digits := (toString n.natAbs).toList
  let sign := if n < 0 then ['-'] else []
  sign ++ List.replicate (width - digits.length - sign.length) '0' ++ digits

/-- A text cut at each pair of dots. -/
def dotParts (current : List Char) : List Char → List (List Char)
  | '.' :: '.' :: rest => current.reverse :: dotParts [] rest
  | c :: rest => dotParts (c :: current) rest
  | [] => [current.reverse]

/-- The texts of a sequence: numbers or letters from one to another. -/
def sequence? (cs : List Char) : Option (List (List Char)) :=
  let parts := dotParts [] cs
  let size? : Option Int := match parts with
    | [_, _] => some 1
    | [_, _, n] => (integer? n).map Prod.fst
    | _ => none
  match parts, size? with
  | a :: b :: _, some size =>
    match integer? a, integer? b, a, b with
    | some (m, v), some (n, w), _, _ => some ((steps m n size).map (padded (max v w)))
    | none, none, [c], [d] =>
      if Text.isAsciiLetter c && Text.isAsciiLetter d then
        some ((steps c.toNat d.toNat size).map fun n => [Char.ofNat n.toNat])
      else none
    | _, _, _, _ => none
  | _, _ => none

/-- The words that units with braces stand for, at most so many braces deep. -/
def expandUnits : Nat → List BraceUnit → List (List BraceUnit)
  | 0, units => [units]
  | fuel + 1, units =>
    match units with
    | [] => [[]]
    | .char '\x7b' :: rest =>
      match parts? 0 [] rest with
      | none => (expandUnits fuel rest).map (.char '\x7b' :: ·)
      | some ([only], after) =>
        match (plainText? only).bind sequence? with
        | some texts =>
          texts.flatMap fun t => (expandUnits fuel after).map (t.map BraceUnit.char ++ ·)
        | none =>
          -- braces around a single part stay, those within it do not
          (expandUnits fuel only).flatMap fun inner =>
            (expandUnits fuel after).map fun r => .char '\x7b' :: inner ++ .char '\x7d' :: r
      | some (parts, after) =>
        parts.flatMap fun part => (expandUnits fuel part).flatMap fun p => (expandUnits fuel after).map (p ++ ·)
    | u :: rest => (expandUnits fuel rest).map (u :: ·)

/-- The words that a word with braces stands for. -/
def expand (pieces : List Piece) : List (List Piece) :=
  let units := unitsOf pieces
  let hasBrace := units.any fun
    | .char '\x7b' => true
    | _ => false
  if hasBrace then (expandUnits (units.length + 1) units).map piecesOf else [pieces]

end Brace
end LintRun.Shell
