import LintRun.Failure.Fault

/-!
# Yaml — Cursors

A place in a text: the characters that follow, and the line and column they start at.

* `next`, `advance`: going on by characters.
* `lineBreak?`: a line break taken as one character.
* The classes of characters that the rest of the reader asks for; the end of the text belongs to some of them.
-/

namespace LintRun.Yaml

/-- What is wrong with a document: its form, or a scalar that cannot be taken over. -/
inductive Fault
  | malformed
  | scalar (f : ScalarFault)
  deriving DecidableEq, Repr

/-- A character that ends a line. -/
def isBreak (c : Char) : Bool :=
  c = '\n' || c = '\r' || c.toNat = 0x85 || c.toNat = 0x2028 || c.toNat = 0x2029

/-- A line end, or the end of the text. -/
def endsLine : Option Char → Bool
  | none => true
  | some c => isBreak c

/-- A space, a line end, or the end of the text. -/
def endsField (c : Option Char) : Bool := c = some ' ' || endsLine c

/-- A blank, a line end, or the end of the text. -/
def endsWord (c : Option Char) : Bool := c = some '\t' || endsField c

def isSpaceOrTab (c : Char) : Bool := c = ' ' || c = '\t'

/-- A character of names: an ASCII letter or digit, a hyphen or an underscore. -/
def isNameChar (c : Char) : Bool :=
  Text.isAsciiDigit c || Text.isAsciiLetter c || c = '-' || c = '_'

/-- A character that a document may hold. -/
def isAllowed (c : Char) : Bool :=
  let n := c.toNat
  n = 9 || n = 10 || n = 13 || (0x20 ≤ n && n ≤ 0x7E) || n = 0x85 || (0xA0 ≤ n && n ≤ 0xFFFD) || 0x10000 ≤ n

/-- A place in a text. -/
structure Cursor where
  rest : List Char
  line : Nat
  column : Nat
  offset : Nat

namespace Cursor

/-- The start of a text. A byte order mark there is passed over and has no width. -/
def ofText (text : List Char) : Cursor :=
  match text with
  | '\uFEFF' :: rest => ⟨rest, 0, 0, 1⟩
  | text => ⟨text, 0, 0, 0⟩

def peek (c : Cursor) (n : Nat) : Option Char := c.rest[n]?

/-- The place after the next character. A carriage return before a line feed does not end a line by itself. -/
def next (c : Cursor) : Cursor :=
  match c.rest with
  | [] => c
  | x :: rest =>
    if isBreak x && !(x = '\r' && rest.head? = some '\n') then ⟨rest, c.line + 1, 0, c.offset + 1⟩
    else ⟨rest, c.line, if x = '\uFEFF' then c.column else c.column + 1, c.offset + 1⟩

/-- The place after so many characters. -/
def advance : Nat → Cursor → Cursor
  | 0, c => c
  | n + 1, c => advance n c.next

/-- The longest run of characters of a class, and the place after it. -/
def takeWhile (p : Char → Bool) (c : Cursor) : List Char × Cursor :=
  let run := c.rest.takeWhile p
  (run, c.advance run.length)

/-- The place after the longest run of characters of a class. -/
def skipWhile (p : Char → Bool) (c : Cursor) : Cursor := (c.takeWhile p).2

def skipSpaces (c : Cursor) : Cursor := c.skipWhile (· = ' ')

/-- The place where the line ends. -/
def skipLine (c : Cursor) : Cursor := c.skipWhile fun x => !isBreak x

/-- The place after a comment, if one starts here. -/
def skipComment (c : Cursor) : Cursor := if c.peek 0 = some '#' then c.skipLine else c

/-- A line break here, as the character it counts as, and the place after it. The separators of lines and of
paragraphs stay themselves. -/
def lineBreak? (c : Cursor) : Option (Char × Cursor) :=
  match c.rest with
  | '\r' :: '\n' :: _ => some ('\n', c.advance 2)
  | x :: _ =>
    if !isBreak x then none
    else if x.toNat = 0x2028 || x.toNat = 0x2029 then some (x, c.next)
    else some ('\n', c.next)
  | [] => none

/-- Three hyphens or three dots that stand alone, which bound a document. -/
def isBoundary (c : Cursor) : Bool :=
  match c.rest with
  | '-' :: '-' :: '-' :: rest | '.' :: '.' :: '.' :: rest => endsWord rest.head?
  | _ => false

/-- Takes a line to its end, if it holds nothing but spaces and a comment. -/
def endLine (c : Cursor) : Except Fault Cursor :=
  let c := c.skipSpaces.skipComment
  if endsLine (c.peek 0) then .ok ((c.lineBreak?.map Prod.snd).getD c) else .error .malformed

end Cursor
end LintRun.Yaml
