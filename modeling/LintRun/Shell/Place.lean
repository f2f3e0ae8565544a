import LintRun.Shell.Command
import LintRun.Shell.Encoding
import LintRun.Text.Digit

/-!
# Shell — Places

Places in the text of a script, what may be wrong there, and what can be read without knowing what a command is.

* `Place`: the rest of a text, its line, and how the text is to be read.
* `Read`: a step that reads something and moves on, or finds a fault.
* `SyntaxFault`: what is wrong with a script, and where.
* `takeInPlace`: a text that is written in the lines after a command.
-/

namespace LintRun.Shell

/-- What is wrong with a script. -/
inductive SyntaxTrouble
  /-- Something stands where it must not. -/
  | unexpected (token : String)
  /-- The text is over too early. -/
  | ended
  /-- A text between backquotes, whose last line this is, is over too early. -/
  | endedWithin (last : Nat)
  /-- The text is over before this mark, which closes what was opened. -/
  | unclosed (mark : Char)
  /-- The text is over before the brackets that close an arithmetic expression. -/
  | openSum
  /-- The text is over before the bracket that closes a list of values. -/
  | openListing
  /-- A condition is malformed: a remark with its line, and how many characters of the line are left. -/
  | condition (remark : Option (Nat × String)) (left : Nat)
  /-- The head of a loop with expressions is malformed. -/
  | counting (remark : String) (source : String)
  /-- A list of values is malformed, which spoils the one command alone. -/
  | listing (token : String)
  /-- A function has a name that none can have. -/
  | functionName
  /-- A loop has a variable that none can have. -/
  | loopVariable
  deriving DecidableEq, Repr

/-- What is wrong, on which line, what should have stood there if only one thing may, and whether it is within a
command that stands in a word. -/
structure SyntaxFault where
  line : Nat
  trouble : SyntaxTrouble
  expected : Option String := none
  nested : Bool := false
  deriving DecidableEq, Repr

/-- How a text is to be read. -/
structure Manner where
  dialect : Dialect
  charset : Charset := .ascii
  /-- Patterns may have alternatives in brackets. -/
  extended : Bool := false
  /-- Words that stand for other texts at the front of a command. -/
  aliases : List (String × String) := []

/-- The rest of a text, its line, and how it is to be read. -/
structure Place where
  rest : List Char
  line : Nat := 1
  /-- How many lines have been taken out of the text below this line. -/
  owed : Nat := 0
  /-- Texts in place that the end of everything has cut off: the line of the end, their line, and their last line. -/
  cutOff : List (Nat × Nat × String) := []
  /-- How many characters have been taken. -/
  taken : Nat := 0
  /-- Parts that have been taken, and how they are written when commands are shown; the newest first. -/
  spans : List (Nat × Nat × List Char) := []
  manner : Manner

abbrev Read (α : Type) := StateT Place (Except SyntaxFault) α

namespace Place

def peek (p : Place) : Option Char := p.rest.head?

def skip (p : Place) (n : Nat) : Place :=
  let lines := (p.rest.take n).count '\n'
  if lines = 0 then { p with rest := p.rest.drop n, taken := p.taken + n }
  else { p with rest := p.rest.drop n, taken := p.taken + n, line := p.line + lines + p.owed, owed := 0 }

def starts (p : Place) (mark : String) : Bool := mark.toList.isPrefixOf p.rest

def isBash (p : Place) : Bool := p.manner.dialect = .bash

/-- How many characters of the line are left. -/
def left (p : Place) : Nat := (p.rest.takeWhile (· ≠ '\n')).length

/-- Another text that is read from here. -/
def within (p : Place) (text : List Char) : Place := { p with rest := text, owed := 0, taken := 0, spans := [] }

end Place

def skip (n : Nat) : Read Unit := modify fun p => p.skip n

def isMeta (c : Char) : Bool := " \t\n;&|<>()".toList.contains c

def isName (cs : List Char) : Bool := cs.head?.any Text.isNameStart && cs.all Text.isNameChar

/-- A parameter that is a single mark. -/
def isSpecial (c : Char) : Bool := "@*#?-$!".toList.contains c

/-- The operators, longer ones first. -/
def operators : Dialect → List String
  | .bash =>
    [";;&", "<<-", "<<<", "&>>", "&&", "||", ";;", ";&", "|&", "<<", ">>", "<&", ">&", "&>", "<>", ">|", ";", "&", "|",
      "<", ">", "(", ")"]
  | .posix => ["<<-", "&&", "||", ";;", "<<", ">>", "<&", ">&", "<>", ">|", ";", "&", "|", "<", ">", "(", ")"]

/-- The words with a meaning in the form of commands. -/
def reserved : Dialect → List String
  | .bash =>
    ["if", "then", "elif", "else", "fi", "while", "until", "do", "done", "for", "in", "case", "esac", "\x7b", "\x7d",
      "!", "[[", "]]", "function", "select", "time", "coproc"]
  | .posix =>
    ["if", "then", "elif", "else", "fi", "while", "until", "do", "done", "for", "in", "case", "esac", "\x7b", "\x7d",
      "!"]

/-- The number of characters of a word with what is open in it. -/
def wordLength (opened : List Char) : List Char → Nat
  | [] => 0
  | '\\' :: _ :: rest => 2 + wordLength opened rest
  | '$' :: '(' :: rest => 2 + wordLength (if opened.head? = some '\'' then opened else ')' :: opened) rest
  | '$' :: '{' :: rest => 2 + wordLength (if opened.head? = some '\'' then opened else '\x7d' :: opened) rest
  | c :: rest =>
    match opened with
    | mark :: outer =>
      if c = mark then 1 + wordLength outer rest
      else if mark = '\'' || mark = '\x60' then 1 + wordLength opened rest
      else if c = '"' || c = '\x60' || (c = '\'' && mark ≠ '"') then 1 + wordLength (c :: opened) rest
      else if c = '(' && mark = ')' then 1 + wordLength (')' :: opened) rest
      else 1 + wordLength opened rest
    | [] =>
      if isMeta c then 0
      else if c = '\'' || c = '"' || c = '\x60' then 1 + wordLength [c] rest
      else 1 + wordLength [] rest

/-- What a fault names: the operator or the word that stands here. -/
def tokenAt (p : Place) : Option String :=
  match p.peek with
  | none => none
  | some '\n' => some "newline"
  | some _ =>
    match (operators p.manner.dialect).find? p.starts with
    | some op => some op
    | none => some (String.ofList (p.rest.take (wordLength [] p.rest)))

def fail (trouble : SyntaxTrouble) (expected : Option String := none) : Read α := do
  throw ⟨(← get).line, trouble, expected, false⟩

def unexpected (expected : Option String := none) : Read α := do
  match tokenAt (← get) with
  | some t => fail (.unexpected t) expected
  | none => fail .ended expected

/-- As `unexpected`, where words have no meaning in the form of commands. -/
def unexpectedWord (expected : Option String := none) : Read α := do
  let p ← get
  match tokenAt p with
  | some t => fail (.unexpected (if p.isBash || t = "newline" || (operators .posix).contains t then t
      else "word")) expected
  | none => fail .ended expected

/-- The place after blanks, comments and joined lines. -/
def skipBlanks : Nat → Place → Place
  | 0, p => p
  | fuel + 1, p =>
    match p.rest with
    | ' ' :: _ | '\t' :: _ => skipBlanks fuel (p.skip 1)
    | '\\' :: '\n' :: _ => skipBlanks fuel (p.skip 2)
    | '#' :: _ => p.skip (p.rest.takeWhile (· ≠ '\n')).length
    | _ => p

def Place.blanks (p : Place) : Place := skipBlanks (p.rest.length + 1) p

/-- The place after blanks and line ends. -/
def skipLines : Nat → Place → Place
  | 0, p => p
  | fuel + 1, p =>
    let p := p.blanks
    if p.peek = some '\n' then skipLines fuel (p.skip 1) else p

def Place.lines (p : Place) : Place := skipLines (p.rest.length + 1) p

def blanks : Read Unit := modify Place.blanks
def lines : Read Unit := modify Place.lines

/-- Takes this mark if it stands here. -/
def accept (mark : String) : Read Bool := do
  let p ← get
  if p.starts mark then
    set (p.skip mark.length)
    pure true
  else pure false

/-! ### Texts between marks -/

/-- The text up to a single quote, which closes it. -/
def readSingle : Read (List Char) := do
  let p ← get
  let inner := p.rest.takeWhile (· ≠ '\'')
  if inner.length < p.rest.length then
    set (p.skip (inner.length + 1))
    pure inner
  else fail (.unclosed '\'')

/-- The text up to a backquote, with the backslashes taken off that guard backquotes, dollars and themselves, and
double quotes within double quotes; and the number of characters that it takes. -/
def backquoted? (quoted : Bool) : List Char → Option (List Char × Nat)
  | [] => none
  | '\x60' :: _ => some ([], 1)
  | '\\' :: c :: rest =>
    (backquoted? quoted rest).map fun (text, n) =>
      if c = '\x60' || c = '$' || c = '\\' || (quoted && c = '"') then (c :: text, n + 2)
        else ('\\' :: c :: text, n + 2)
  | c :: rest => (backquoted? quoted rest).map fun (text, n) => (c :: text, n + 1)

/-- The number of characters up to a closing mark with what is opened within. -/
def closingLength (opening closing : Char) (depth : Nat) : List Char → Option Nat
  | [] => none
  | c :: rest =>
    if c = closing then
      if depth = 0 then some 0 else (closingLength opening closing (depth - 1) rest).map (· + 1)
    else (closingLength opening closing (if c = opening then depth + 1 else depth) rest).map (· + 1)

/-- The number of characters up to the two brackets that close an arithmetic expression. -/
def sumLength? (cs : List Char) : Option Nat :=
  (closingLength '(' ')' 0 cs).filter fun n => (cs.drop (n + 1)).head? = some ')'

/-- The characters of a word with quotes taken off, as it names the end of a text that is written in place. -/
def unquote : List Char → List Char
  | [] => []
  | '\\' :: c :: rest => c :: unquote rest
  | c :: rest => if c = '\'' || c = '"' then unquote rest else c :: unquote rest

/-- The lines of a text that is written in place, up to the line that ends it if there is one, and the lines after
that. -/
def cutLines (dedent : Bool) (delimiter : List Char) :
    List (List Char) → List (List Char) × Option (List (List Char))
  | [] => ([], none)
  | line :: rest =>
    let line := if dedent then line.dropWhile (· = '\t') else line
    if line = delimiter then ([], some rest)
    else
      let (body, after) := cutLines dedent delimiter rest
      (line :: body, after)

/-- Joins lines of a text in place that end in a backslash, as far as those before them are even in number. -/
def joinedLines (quoted : Bool) : List (List Char) → List (List Char)
  | a :: b :: rest =>
    let marks := (a.reverse.takeWhile (· = '\\')).length
    if !quoted && marks % 2 = 1 then
      match joinedLines quoted (b :: rest) with
      | next :: more => (a ++ '\n' :: next) :: more
      | [] => [a]
    else a :: joinedLines quoted (b :: rest)
  | ls => ls

/-- Takes a text that is written in place out of what follows. -/
def takeInPlace (dedent quoted : Bool) (delimiter : List Char) : Read (List Char) := do
  let p ← get
  let here := p.rest.takeWhile (· ≠ '\n')
  let below := p.rest.drop (here.length + 1)
  let whole := below.getLast?.all (· = '\n')
  let rows := Text.splitAt '\n' below
  let (body, after) := cutLines dedent delimiter (joinedLines quoted (if whole then rows.dropLast else rows))
  let text := body.flatMap (· ++ ['\n'])
  let size := text.count '\n'
  match after with
  | some after =>
    let ending := if whole && !after.isEmpty then ['\n'] else []
    set { p with rest := here ++ '\n' :: (after.intersperse ['\n']).flatten ++ ending, owed := p.owed + size + 1 }
    pure text
  | none =>
    let last := if below.isEmpty then p.line + p.owed + 1 else p.line + p.owed + size
    set
      { p with
        rest := here, owed := p.owed + size
        cutOff := p.cutOff ++ [(last, p.line, String.ofList delimiter)] }
    pure (if whole then text else text.dropLast)

/-! ### Marks of the grammar -/

/-- The words that a command list ends before. -/
def closers : List String := ["then", "else", "elif", "fi", "do", "done", "esac", "\x7d", ")", ";;", ";&"]

/-- Whether a reserved word stands here on its own. -/
def Place.sees (p : Place) (word : String) : Bool :=
  p.starts word && ((p.rest.drop word.length).head?.all isMeta || word = ")" || word = ";;" || word = ";&")

/-- Whether a command list ends here. -/
def Place.closes (p : Place) : Bool := p.rest.isEmpty || closers.any p.sees

/-- Takes a reserved word that has to stand here. -/
def expect (word : String) : Read Unit := do
  lines
  let p ← get
  if p.sees word then set (p.skip word.length) else unexpected (some word)

/-- The redirection operators, longer ones first. -/
def redirections : Dialect → List (String × Direction)
  | .bash =>
    [("<<<", .line), ("<<-", .text "" true false), ("&>>", .both true), ("<<", .text "" false false), ("<&", .copyIn),
      (">&", .copyOut), ("&>", .both false), (">>", .append), (">|", .write true), ("<>", .update), ("<", .read),
      (">", .write false)]
  | .posix =>
    [("<<-", .text "" true false), ("<<", .text "" false false), ("<&", .copyIn), (">&", .copyOut), (">>", .append),
      (">|", .write true), ("<>", .update), ("<", .read), (">", .write false)]

/-- The redirection operator that stands here. -/
def Place.redirection? (p : Place) : Option (String × Direction) :=
  if p.isBash && (p.starts "<(" || p.starts ">(") then none
  else (redirections p.manner.dialect).find? fun (op, _) => p.starts op

/-- What is written in front of a redirection operator: digits, or a name in braces. -/
def Place.handle? (p : Place) : Option (Handle × Place) :=
  let digits := p.rest.takeWhile Text.isAsciiDigit
  let q := p.skip digits.length
  if !digits.isEmpty && (q.peek = some '<' || q.peek = some '>') then some (.number (Text.numberOf 10 digits), q)
  else match p.isBash, p.rest with
    | true, '{' :: rest =>
      let name := rest.takeWhile Text.isNameChar
      let q := p.skip (name.length + 2)
      if isName name && (rest.drop name.length).head? = some '\x7d' && (q.peek = some '<' || q.peek = some '>') then
        some (.variable (String.ofList name), q)
      else none
    | _, _ => none

end LintRun.Shell
