import LintRun.Yaml.Token

/-!
# Yaml — Scanner

A text cut into tokens, no further than somebody asks for them. Indentation and the colons after keys become tokens
of their own, so that what follows sees brackets only; a token is not given out while a later colon may still show
that a key started with it.

* `Scanner.peek`, `Scanner.skip`: the next token, and the state after it.
* `Scanner`: the open indentations, the depth of brackets, and where a key may have started.
-/

namespace LintRun.Yaml

/-- Where a key may have started: so many tokens came before. A required key has to turn out to be one. -/
structure KeyPlace where
  position : Nat
  required : Bool
  offset : Nat
  line : Nat
  column : Nat

/-- The state between two tokens: those that are read but not yet given out, and how many were. Column `-1` encloses
the whole document. -/
structure Scanner where
  cursor : Cursor
  /-- The number of characters of the text. -/
  size : Nat
  queue : List Token := []
  given : Nat := 0
  finished : Bool := false
  flow : Nat := 0
  indent : Int := -1
  indents : List Int := []
  keyAllowed : Bool := true
  keys : List (Nat × KeyPlace) := []

namespace Scanner

def emit (s : Scanner) (t : Token) : Scanner := { s with queue := s.queue ++ [t] }

/-- Puts a token behind the first `position` ones of the text. -/
def insertToken (s : Scanner) (position : Nat) (t : Token) : Scanner :=
  let index := position - s.given
  { s with queue := s.queue.take index ++ t :: s.queue.drop index }

/-- The number of characters after which a key without its colon is none. -/
def keyLimit : Nat := 1024

/-- Gives up the places of keys that end with their line or are too long. -/
def dropStaleKeys (s : Scanner) : Except Fault Scanner :=
  let stale (k : KeyPlace) : Bool := k.line ≠ s.cursor.line || keyLimit < s.cursor.offset - k.offset
  if s.keys.any fun (_, k) => stale k && k.required then .error .malformed
  else .ok { s with keys := s.keys.filter fun (_, k) => !stale k }

/-- Gives up the place of a key at the current depth. -/
def dropKey (s : Scanner) : Except Fault Scanner :=
  match s.keys.lookup s.flow with
  | some k =>
    if k.required then .error .malformed
    else .ok { s with keys := s.keys.filter fun (level, _) => level ≠ s.flow }
  | none => .ok s

/-- Notes that a key may start here. -/
def markKey (s : Scanner) : Except Fault Scanner :=
  if !s.keyAllowed then .ok s
  else do
    let required := s.flow = 0 && s.indent = s.cursor.column
    let s ← s.dropKey
    .ok { s with
      keys := (s.flow, ⟨s.given + s.queue.length, required, s.cursor.offset, s.cursor.line,
        s.cursor.column⟩) :: s.keys }

/-- Closes the indentations deeper than a column. -/
def unwindTo (column : Int) : List Int → Scanner → Scanner
  | [], s => s
  | outer :: rest, s =>
    if column < s.indent then unwindTo column rest ({ s with indent := outer, indents := rest }.emit .blockEnd)
    else s

def unwind (s : Scanner) (column : Int) : Scanner :=
  if s.flow = 0 then unwindTo column s.indents s else s

/-- Opens an indentation, if the column is deeper than the current one. -/
def deepen (s : Scanner) (column : Nat) : Bool × Scanner :=
  if s.indent < column then (true, { s with indents := s.indent :: s.indents, indent := column }) else (false, s)

/-- White space, comments and line ends up to the next token. -/
def skipToToken : Nat → Scanner → Scanner
  | 0, s => s
  | fuel + 1, s =>
    let c := s.cursor.skipSpaces.skipComment
    match c.lineBreak? with
    | some (_, c) => skipToToken fuel { s with cursor := c, keyAllowed := s.keyAllowed || s.flow = 0 }
    | none => { s with cursor := c }

/-- A token of some characters that stands where no key can have started. -/
def takeMark (s : Scanner) (width : Nat) (t : Token) : Scanner :=
  { s with cursor := s.cursor.advance width }.emit t

/-- A line that bounds documents or directs their reading. -/
def topLine (s : Scanner) : Except Fault Scanner := do
  let s ← (s.unwind (-1)).dropKey
  .ok { s with keyAllowed := false }

/-- A token that may start a key. -/
def keyStart (s : Scanner) : Except Fault Scanner := do
  let s ← s.markKey
  .ok { s with keyAllowed := false }

def openFlow (s : Scanner) (t : Token) : Except Fault Scanner := do
  let s ← s.markKey
  .ok ({ s with flow := s.flow + 1, keyAllowed := true }.takeMark 1 t)

def closeFlow (s : Scanner) (t : Token) : Except Fault Scanner := do
  let s ← s.dropKey
  if s.flow = 0 then .error .malformed
  else .ok ({ s with flow := s.flow - 1, keyAllowed := false }.takeMark 1 t)

/-- An indentation that starts here, if the column is a new one. -/
def openBlock (s : Scanner) (t : Token) : Except Fault Scanner :=
  if s.flow ≠ 0 then .ok s
  else if !s.keyAllowed then .error .malformed
  else
    let (isNew, s) := s.deepen s.cursor.column
    .ok (if isNew then s.emit t else s)

def entryMark (s : Scanner) : Except Fault Scanner := do
  let s ← ({ (← s.openBlock .blockSequenceStart) with keyAllowed := true }).dropKey
  .ok (s.takeMark 1 .blockEntry)

def keyMark (s : Scanner) : Except Fault Scanner := do
  let s ← s.openBlock .blockMappingStart
  let s ← { s with keyAllowed := s.flow = 0 }.dropKey
  .ok (s.takeMark 1 .key)

/-- A colon: the key before it gets its token now, if one can have started. -/
def valueMark (s : Scanner) : Except Fault Scanner := do
  match s.keys.lookup s.flow with
  | some k =>
    let s := { s with keys := s.keys.filter fun (level, _) => level ≠ s.flow }.insertToken k.position .key
    let (isNew, s) := if s.flow = 0 then s.deepen k.column else (false, s)
    let s := if isNew then s.insertToken k.position .blockMappingStart else s
    .ok ({ s with keyAllowed := false }.takeMark 1 .value)
  | none =>
    let s ← s.openBlock .blockMappingStart
    let s ← { s with keyAllowed := s.flow = 0 }.dropKey
    .ok (s.takeMark 1 .value)

def blockScalar (s : Scanner) (folded : Bool) : Except Fault Scanner := do
  let s ← { s with keyAllowed := true }.dropKey
  let (text, c) ← Scalar.block folded (s.indent + 1).toNat s.cursor
  .ok ({ s with cursor := c }.emit (.scalar (Text.codesOf text) false))

def quotedScalar (s : Scanner) (double : Bool) : Except Fault Scanner := do
  let s ← s.keyStart
  let (text, c) ← Scalar.quoted double s.cursor
  .ok ({ s with cursor := c }.emit (.scalar text false))

def plainScalar (s : Scanner) : Except Fault Scanner := do
  let s ← s.keyStart
  let (text, ended, c) := Scalar.plain (s.flow ≠ 0) (s.indent + 1).toNat s.cursor
  .ok ({ s with cursor := c, keyAllowed := ended }.emit (.scalar (Text.codesOf text) true))

/-- Whether a plain scalar may start here. -/
def startsPlain (s : Scanner) (x : Char) : Bool :=
  !(endsWord (some x) || "-?:,[]\x7b\x7d#&*!|>'\"%@`".toList.contains x) ||
    (!endsWord (s.cursor.peek 1) && (x = '-' || (s.flow = 0 && (x = '?' || x = ':'))))

/-- The token that starts with a character. -/
def token (s : Scanner) (x : Char) : Except Fault Scanner :=
  let c := s.cursor
  let atMargin := c.column = 0
  let spaced := endsWord (c.peek 1)
  if x = '%' && atMargin then do
    let s ← s.topLine
    let (d, c) ← Directive.scan s.cursor
    .ok ({ s with cursor := c }.emit (.directive d))
  else if x = '-' && atMargin && c.isBoundary then do .ok ((← s.topLine).takeMark 3 .documentStart)
  else if x = '.' && atMargin && c.isBoundary then do .ok ((← s.topLine).takeMark 3 .documentEnd)
  else if x = '[' then s.openFlow .flowSequenceStart
  else if x = '\x7b' then s.openFlow .flowMappingStart
  else if x = ']' then s.closeFlow .flowSequenceEnd
  else if x = '\x7d' then s.closeFlow .flowMappingEnd
  else if x = ',' then do .ok ((← { s with keyAllowed := true }.dropKey).takeMark 1 .flowEntry)
  else if x = '-' && spaced then s.entryMark
  else if x = '?' && (s.flow ≠ 0 || spaced) then s.keyMark
  else if x = ':' && (s.flow ≠ 0 || spaced) then s.valueMark
  else if x = '*' then do
    let s ← s.keyStart
    let (name, c) ← Token.anchorName s.cursor
    .ok ({ s with cursor := c }.emit (.alias name))
  else if x = '&' then do
    let s ← s.keyStart
    let (name, c) ← Token.anchorName s.cursor
    .ok ({ s with cursor := c }.emit (.anchor name))
  else if x = '!' then do
    let s ← s.keyStart
    let (t, c) ← Token.ofTag s.cursor
    .ok ({ s with cursor := c }.emit t)
  else if x = '|' && s.flow = 0 then s.blockScalar false
  else if x = '>' && s.flow = 0 then s.blockScalar true
  else if x = '\'' then s.quotedScalar false
  else if x = '"' then s.quotedScalar true
  else if s.startsPlain x then s.plainScalar
  else .error .malformed

/-- The end of the text: all indentations are closed. -/
def finish (s : Scanner) : Except Fault Scanner := do
  let s ← (s.unwind (-1)).dropKey
  .ok { s with keys := [], keyAllowed := false, finished := true }

/-- Reads on by one token, with those that it closes. -/
def fetch (s : Scanner) : Except Fault Scanner := do
  let s ← (skipToToken (s.size + 1) s).dropStaleKeys
  let s := s.unwind s.cursor.column
  match s.cursor.rest with
  | [] => s.finish
  | x :: _ => s.token x

/-- Whether a key may have started with the next token to be given out. -/
def isUndecided (s : Scanner) : Bool :=
  match (s.keys.map fun (_, k) => k.position).min? with
  | some position => position = s.given
  | none => false

/-- Reads on until the next token can be given out. -/
def fill : Nat → Scanner → Except Fault Scanner
  | 0, s => .ok s
  | fuel + 1, s =>
    if s.finished then .ok s
    else if s.queue.isEmpty then s.fetch >>= fill fuel
    else do
      let s ← s.dropStaleKeys
      if s.isUndecided then s.fetch >>= fill fuel else .ok s

/-- The next token, or nothing at the end, and the state in which it is known. Each token takes a character at
least. -/
def peek (s : Scanner) : Except Fault (Option Token × Scanner) := do
  let s ← fill (s.size + 2 - s.cursor.offset) s
  .ok (s.queue.head?, s)

/-- The state after the next token. -/
def skip (s : Scanner) : Scanner :=
  match s.queue with
  | [] => s
  | _ :: rest => { s with queue := rest, given := s.given + 1 }

/-- The state before the first token of a text, all of whose characters have to be allowed. -/
def ofText (text : List Char) : Except Fault Scanner :=
  if text.all isAllowed then .ok { cursor := .ofText text, size := text.length } else .error .malformed

end Scanner
end LintRun.Yaml
