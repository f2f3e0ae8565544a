import LintRun.Text.Utf8
import LintRun.Yaml.Scalar

/-!
# Yaml — Tokens

What a document is cut into: directives, marks of structure, properties of nodes, and scalars.

* `Directive.scan`: a line at the top of a document about how to read it.
* `Token.anchorName`, `Token.ofTag`: what may stand in front of a node.
-/

namespace LintRun.Yaml

/-- A line at the top of a document about how to read it. -/
inductive Directive
  | version (major : Nat)
  | tagHandle (handle replacement : String)
  | other
  deriving DecidableEq, Repr

inductive Token
  | directive (d : Directive)
  | documentStart
  | documentEnd
  | blockSequenceStart
  | blockMappingStart
  | blockEnd
  | flowSequenceStart
  | flowSequenceEnd
  | flowMappingStart
  | flowMappingEnd
  | blockEntry
  | flowEntry
  | key
  | value
  | alias (name : String)
  | anchor (name : String)
  | tag (handle : Option String) (ending : String)
  | scalar (text : Text.Codes) (plain : Bool)
  deriving DecidableEq, Repr

namespace Directive

/-- The digits of a number. -/
def number? (c : Cursor) : Except Fault (Nat × Cursor) :=
  let (digits, c) := c.takeWhile Text.isAsciiDigit
  if digits.isEmpty then .error .malformed
  else if Text.digitLimit < digits.length then .error (.scalar (.tooManyDigits digits.length))
  else .ok (Text.numberOf 10 digits, c)

/-- The version of a document, of which the number before the point counts. -/
def versionDirective (c : Cursor) : Except Fault (Directive × Cursor) := do
  let (major, c) ← number? c.skipSpaces
  if c.peek 0 ≠ some '.' then .error .malformed
  else
    let (_, c) ← number? c.next
    if endsField (c.peek 0) then .ok (.version major, c) else .error .malformed

/-- A tag handle: an exclamation mark, or a name between two. -/
def handleName (c : Cursor) : Except Fault (String × Cursor) :=
  if c.peek 0 ≠ some '!' then .error .malformed
  else if c.peek 1 = some ' ' then .ok ("!", c.next)
  else
    let (name, d) := c.next.takeWhile isNameChar
    if d.peek 0 = some '!' then .ok (String.ofList ('!' :: name ++ ['!']), d.next)
    else .error .malformed

def isUriChar (c : Char) : Bool := isNameChar c || ";/?:@&=+$,.!~*'()[]%".toList.contains c

/-- Bytes written as a percent sign and two hexadecimal digits each. -/
def uriBytes : List Char → Except Fault (List UInt8 × List Char)
  | '%' :: a :: b :: rest =>
    if (Text.digitIn? 16 a).isSome && (Text.digitIn? 16 b).isSome then do
      let (bytes, rest) ← uriBytes rest
      .ok (UInt8.ofNat (Text.numberOf 16 [a, b]) :: bytes, rest)
    else .error .malformed
  | '%' :: _ => .error .malformed
  | rest => .ok ([], rest)

/-- The characters of a tag with its escapes replaced. -/
def uriText : Nat → List Char → Except Fault (List Char)
  | 0, _ => .ok []
  | _ + 1, [] => .ok []
  | fuel + 1, '%' :: rest => do
    let (bytes, rest) ← uriBytes ('%' :: rest)
    match Utf8.decode bytes with
    | .error _ => .error .malformed
    | .ok text => (uriText fuel rest).map (text ++ ·)
  | fuel + 1, c :: rest => (uriText fuel rest).map (c :: ·)

/-- The longest run of characters of a tag, which must not be empty. -/
def uri (c : Cursor) : Except Fault (String × Cursor) := do
  let (run, c) := c.takeWhile isUriChar
  if run.isEmpty then .error .malformed
  else
    let text ← uriText run.length run
    .ok (String.ofList text, c)

/-- What a tag handle stands for. -/
def handleDirective (c : Cursor) : Except Fault (Directive × Cursor) := do
  let (handle, c) ← handleName c.skipSpaces
  if c.peek 0 ≠ some ' ' then .error .malformed
  else
    let (replacement, c) ← uri c.skipSpaces
    if endsField (c.peek 0) then .ok (.tagHandle handle replacement, c) else .error .malformed

/-- A directive, up to the end of its line. -/
def scan (c : Cursor) : Except Fault (Directive × Cursor) := do
  let (name, c) := c.next.takeWhile isNameChar
  if name.isEmpty || !endsField (c.peek 0) then .error .malformed
  else
    let (d, c) ←
      match String.ofList name with
      | "YAML" => versionDirective c
      | "TAG" => handleDirective c
      | _ => .ok (.other, c.skipLine)
    .ok (d, ← c.endLine)

end Directive

namespace Token

/-- The name after an ampersand or an asterisk. -/
def anchorName (c : Cursor) : Except Fault (String × Cursor) :=
  let (name, c) := c.next.takeWhile isNameChar
  let ends := endsWord (c.peek 0) || "?:,]\x7d%@`".toList.contains ((c.peek 0).getD ' ')
  if name.isEmpty || !ends then .error .malformed else .ok (String.ofList name, c)

/-- Whether another exclamation mark comes before the next space or line end. -/
def hasHandle (c : Cursor) : Bool := (c.next.rest.takeWhile fun x => !endsField (some x)).contains '!'

/-- A tag: in angle brackets as it is, else with a handle. -/
def ofTag (c : Cursor) : Except Fault (Token × Cursor) := do
  let (t, c) ←
    if c.peek 1 = some '<' then do
      let (text, c) ← Directive.uri (c.advance 2)
      if c.peek 0 = some '>' then .ok (Token.tag none text, c.next) else .error .malformed
    else if endsWord (c.peek 1) then .ok (Token.tag none "!", c.next)
    else do
      let (handle, c) ← if hasHandle c then Directive.handleName c else .ok ("!", c.next)
      let (text, c) ← Directive.uri c
      .ok (Token.tag (some handle) text, c)
  if endsField (c.peek 0) then .ok (t, c) else .error .malformed

end Token
end LintRun.Yaml
