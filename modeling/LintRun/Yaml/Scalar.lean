import LintRun.Yaml.Cursor

/-!
# Yaml — Scalars

The five ways to write a scalar: plain, between single or double quotes, and as a block that keeps or folds its
lines. Each reader starts at the first character of the scalar and gives its text and the place after it.

* `plain`, `quoted`, `block`.

The loops are bounded by the number of characters that are left, each round taking at least one.
-/

namespace LintRun.Yaml.Scalar

/-- What a line break between two parts of a flowing scalar stands for: a space, or itself if it is a separator;
the empty lines after it stay and take the place of the space. -/
def foldedBreak (first : Char) (more : List Char) : List Char :=
  if first ≠ '\n' then first :: more else if more.isEmpty then [' '] else more

/-! ### Plain scalars -/

/-- Line breaks and spaces up to the next text; nothing if a document boundary comes first. -/
def plainBreaks : Nat → Cursor → Option (List Char) × Cursor
  | 0, c => (some [], c)
  | fuel + 1, c =>
    if c.isBoundary then (none, c)
    else
      let c := c.skipSpaces
      match c.lineBreak? with
      | none => (some [], c)
      | some (b, c) =>
        let (more, c) := plainBreaks fuel c
        (more.map (b :: ·), c)

/-- The white space after a part of a plain scalar, as it counts in the text, and whether a line ended. No white
space, or a document boundary after it, ends the scalar. -/
def plainSpaces (c : Cursor) : Option (List Char) × Bool × Cursor :=
  let (spaces, c) := c.takeWhile (· = ' ')
  match c.lineBreak? with
  | none => (if spaces.isEmpty then none else some spaces, false, c)
  | some (b, c) =>
    let (more, c) := plainBreaks c.rest.length c
    (more.map (foldedBreak b), true, c)

/-- Whether a plain scalar stops before the text: at blanks and line ends, at a colon before one, and inside
brackets at the marks of a collection. -/
def plainStops (inFlow : Bool) : List Char → Bool
  | [] => true
  | c :: rest =>
    endsWord (some c) ||
      (c = ':' && (endsWord rest.head? || (inFlow && ",[]\x7b\x7d".toList.contains (rest.head?.getD ' ')))) ||
      (inFlow && ",?[]\x7b\x7d".toList.contains c)

/-- The number of characters before a plain scalar stops. -/
def plainLength (inFlow : Bool) : List Char → Nat
  | [] => 0
  | c :: rest => if plainStops inFlow (c :: rest) then 0 else plainLength inFlow rest + 1

/-- The parts of a plain scalar; `before` is the white space in front of the next part. Outside brackets a line
that is indented less than `indent` does not belong to the scalar. -/
def plainParts (inFlow : Bool) (indent : Nat) : Nat → List Char → Bool → Cursor → List Char × Bool × Cursor
  | 0, _, ended, c => ([], ended, c)
  | fuel + 1, before, ended, c =>
    let n := if c.peek 0 = some '#' then 0 else plainLength inFlow c.rest
    if n = 0 then ([], ended, c)
    else
      let part := c.rest.take n
      let (spaces, ended, c) := plainSpaces (c.advance n)
      match spaces with
      | none => (before ++ part, ended, c)
      | some spaces =>
        if c.peek 0 = some '#' || (!inFlow && c.column < indent) then (before ++ part, ended, c)
        else
          let (more, ended, c) := plainParts inFlow indent fuel spaces ended c
          (before ++ part ++ more, ended, c)

/-- A plain scalar, and whether it ended with a line. -/
def plain (inFlow : Bool) (indent : Nat) (c : Cursor) : List Char × Bool × Cursor :=
  plainParts inFlow indent (c.rest.length + 1) [] false c

/-! ### Quoted scalars -/

/-- The character that an escape of one letter stands for. -/
def escaped? (c : Char) : Option Nat :=
  [('0', 0), ('a', 7), ('b', 8), ('t', 9), ('\t', 9), ('n', 10), ('v', 11), ('f', 12), ('r', 13), ('e', 27),
    (' ', 32), ('"', 34), ('\\', 92), ('/', 47), ('N', 0x85), ('_', 0xA0), ('L', 0x2028),
    ('P', 0x2029)].lookup c

/-- The number of hexadecimal digits after an escape letter. -/
def hexWidth? (c : Char) : Option Nat := [('x', 2), ('u', 4), ('U', 8)].lookup c

/-- A code that may be one of a text; a code past the last one is a fault. -/
def checkCode (code : Nat) : Except Fault Nat :=
  if code < 0x110000 then .ok code
  else .error (.scalar (if code < Nat.pow 2 31 then .notCharacter else .codeTooLarge))

/-- Line breaks and the blanks around them, in a quoted scalar; a document boundary must not stand there. -/
def quotedBreaks : Nat → Cursor → Except Fault (List Char × Cursor)
  | 0, c => .ok ([], c)
  | fuel + 1, c =>
    if c.isBoundary then .error .malformed
    else
      let c := c.skipWhile isSpaceOrTab
      match c.lineBreak? with
      | none => .ok ([], c)
      | some (b, c) => do
        let (more, c) ← quotedBreaks fuel c
        .ok (b :: more, c)

/-- Blanks in a quoted scalar: kept inside a line, folded at its end. -/
def quotedSpaces (c : Cursor) : Except Fault (List Char × Cursor) :=
  let (blanks, c) := c.takeWhile isSpaceOrTab
  match c.lineBreak? with
  | some (b, c) => do
    let (more, c) ← quotedBreaks c.rest.length c
    .ok (foldedBreak b more, c)
  | none => if c.rest.isEmpty then .error .malformed else .ok (blanks, c)

/-- An escape, at the character after the backslash. -/
def escape (c : Cursor) : Except Fault (Text.Codes × Cursor) :=
  match c.rest with
  | [] => .error .malformed
  | x :: rest =>
    match escaped? x with
    | some code => .ok ([code], c.next)
    | none =>
      match hexWidth? x with
      | some width =>
        let digits := rest.take width
        if digits.length = width && digits.all fun d => (Text.digitIn? 16 d).isSome then do
          .ok ([← checkCode (Text.numberOf 16 digits)], c.advance (width + 1))
        else .error .malformed
      | none =>
        match c.lineBreak? with
        | some (_, c) => (quotedBreaks c.rest.length c).map fun (breaks, c) => (Text.codesOf breaks, c)
        | none => .error .malformed

/-- Whether a character may have a meaning of its own between quotes. -/
def isQuotedMark (c : Char) : Bool := c = '\'' || c = '"' || c = '\\' || endsWord (some c)

/-- The text of a quoted scalar up to its closing quote. -/
def quotedParts (double : Bool) : Nat → Cursor → Except Fault (Text.Codes × Cursor)
  | 0, _ => .error .malformed
  | fuel + 1, c =>
    match c.rest with
    | [] => .error .malformed
    | x :: rest =>
      let continueAfter (part : Text.Codes) (c : Cursor) : Except Fault (Text.Codes × Cursor) := do
        let (more, c) ← quotedParts double fuel c
        .ok (part ++ more, c)
      if !isQuotedMark x then
        let (run, c) := c.takeWhile fun y => !isQuotedMark y
        continueAfter (Text.codesOf run) c
      else if !double && x = '\'' && rest.head? = some '\'' then continueAfter [x.toNat] (c.advance 2)
      else if x = (if double then '"' else '\'') then .ok ([], c.next)
      else if double && x = '\\' then do
        let (part, c) ← escape c.next
        continueAfter part c
      else if endsWord (some x) then do
        let (part, c) ← quotedSpaces c
        continueAfter (Text.codesOf part) c
      else continueAfter [x.toNat] c.next

/-- A scalar between quotes. -/
def quoted (double : Bool) (c : Cursor) : Except Fault (Text.Codes × Cursor) :=
  quotedParts double (c.rest.length + 1) c.next

/-! ### Block scalars -/

/-- What becomes of the line breaks at the end of a block. -/
inductive Chomping
  | clip
  | strip
  | keep
  deriving DecidableEq, Repr

def chomping? : Option Char → Option Chomping
  | some '+' => some .keep
  | some '-' => some .strip
  | _ => none

def increment? (c : Option Char) : Option Nat :=
  c.bind fun x => if Text.isAsciiDigit x then some (x.toNat - 48) else none

/-- The marks after the sign of a block: chomping and indentation, in either order. -/
def blockMarks (c : Cursor) : Except Fault (Chomping × Option Nat × Cursor) :=
  let (chomp, increment, c) :=
    match chomping? (c.peek 0) with
    | some chomp =>
      match increment? (c.peek 1) with
      | some n => (chomp, some n, c.advance 2)
      | none => (chomp, none, c.next)
    | none =>
      match increment? (c.peek 0) with
      | some n =>
        match chomping? (c.peek 1) with
        | some chomp => (chomp, some n, c.advance 2)
        | none => (.clip, some n, c.next)
      | none => (.clip, none, c)
  if increment = some 0 || !endsField (c.peek 0) then .error .malformed else .ok (chomp, increment, c)

/-- The empty lines before a block, and the deepest indentation among them and the first line. -/
def blockIndentation : Nat → Nat → Cursor → List Char × Nat × Cursor
  | 0, deepest, c => ([], deepest, c)
  | fuel + 1, deepest, c =>
    let c := c.skipSpaces
    let deepest := max deepest c.column
    match c.lineBreak? with
    | none => ([], deepest, c)
    | some (b, c) =>
      let (more, deepest, c) := blockIndentation fuel deepest c
      (b :: more, deepest, c)

/-- The place after the spaces up to an indentation. -/
def skipIndent (indent : Nat) (c : Cursor) : Cursor :=
  c.advance ((c.rest.take (indent - c.column)).takeWhile (· = ' ')).length

/-- The empty lines inside a block. -/
def blockBreaks (indent : Nat) : Nat → Cursor → List Char × Cursor
  | 0, c => ([], c)
  | fuel + 1, c =>
    let c := skipIndent indent c
    match c.lineBreak? with
    | none => ([], c)
    | some (b, c) =>
      let (more, c) := blockBreaks indent fuel c
      (b :: more, c)

/-- Whether a line starts with its text and not with a blank. -/
def startsWithText (c : Cursor) : Bool := !(c.peek 0 = some ' ' || c.peek 0 = some '\t')

/-- The lines of a block; `breaks` are the empty lines in front of the next line. The result tells the text up to
the last line, its line break and the empty lines after it. -/
def blockLines (folded : Bool) (indent : Nat) :
    Nat → List Char → Cursor → List Char × List Char × List Char × Cursor
  | 0, breaks, c => ([], [], breaks, c)
  | fuel + 1, breaks, c =>
    if c.column ≠ indent || c.rest.isEmpty then ([], [], breaks, c)
    else
      let textual := startsWithText c
      let (line, c) := c.takeWhile fun x => !isBreak x
      let (lineEnd, c) := match c.lineBreak? with
        | some (b, c) => ([b], c)
        | none => ([], c)
      let (more, c) := blockBreaks indent (c.rest.length + 1) c
      if c.column = indent && !c.rest.isEmpty then
        let joint :=
          if folded && lineEnd = ['\n'] && textual && startsWithText c then
            if more.isEmpty then [' '] else []
          else lineEnd
        let (text, lastEnd, after, c) := blockLines folded indent fuel more c
        (breaks ++ line ++ joint ++ text, lastEnd, after, c)
      else (breaks ++ line, lineEnd, more, c)

/-- A block scalar inside a collection at the given indentation. -/
def block (folded : Bool) (outer : Nat) (c : Cursor) : Except Fault (List Char × Cursor) := do
  let (chomp, increment, c) ← blockMarks c.next
  let c ← c.endLine
  let least := max outer 1
  let (breaks, indent, c) :=
    match increment with
    | some n =>
      let indent := least + n - 1
      let (breaks, c) := blockBreaks indent (c.rest.length + 1) c
      (breaks, indent, c)
    | none =>
      let (breaks, deepest, c) := blockIndentation (c.rest.length + 1) 0 c
      (breaks, max least deepest, c)
  let (text, lastEnd, after, c) := blockLines folded indent (c.rest.length + 1) breaks c
  let ending := match chomp with
    | .strip => []
    | .clip => lastEnd
    | .keep => lastEnd ++ after
  .ok (text ++ ending, c)

end LintRun.Yaml.Scalar
