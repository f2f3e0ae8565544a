import LintRun.Shell.Editor.Script

/-!
# Shell — The stream editor: reading scripts

* `Cursor`: what is left of a part of a script, and where it is from.
* `readScript`: the script that several parts make up, or what is wrong with it.
-/

namespace LintRun.Shell
namespace Editor

/-- Where a part of a script is from. -/
inductive Origin
  | argument (number : Nat)
  | file (name : String)
  deriving DecidableEq, Repr

/-- What is left of a part of a script. -/
structure Cursor where
  origin : Origin
  rest : List Char
  used : Nat := 0
  line : Nat := 1

/-- What the options say about a script. -/
structure Manner where
  extended : Bool := false
  sandbox : Bool := false
  /-- Lines end in a NUL. -/
  zero : Bool := false
  set : Charset := .ascii

/-- What is known while a script is read. -/
structure Reading where
  cursor : Cursor
  manner : Manner
  script : Script := {}
  /-- The blocks that are open, and what a message about each starts with. -/
  blocks : List (Nat × String) := []
  /-- The text of the last command goes on in the next part. -/
  pending : Bool := false

/-- A fault in a script, and the status for it. -/
structure Fault where
  text : String
  status : Nat := 1

abbrev Read := StateT Reading (Except Fault)

/-- Where a cursor is, in a message. -/
def Cursor.shown (c : Cursor) (whole : Bool) : String :=
  match c.origin with
  | .argument n => "-e expression #" ++ toString n ++ ", char " ++ toString (if whole then 0 else c.used) ++ ": "
  | .file name => "file " ++ name ++ " line " ++ toString c.line ++ ": "

def fault (text : String) : Read α := do throw { text := (← get).cursor.shown false ++ text }

/-- The next character. -/
def take : Read (Option Char) := do
  let r ← get
  match r.cursor.rest with
  | [] => pure none
  | c :: rest =>
    let line := if c = '\n' then r.cursor.line + 1 else r.cursor.line
    set { r with cursor := { r.cursor with rest, used := r.cursor.used + 1, line } }
    pure (some c)

/-- Puts the last character back. -/
def putBack (c : Option Char) : Read Unit :=
  match c with
  | none => pure ()
  | some c => modify fun r =>
    let line := if c = '\n' then r.cursor.line - 1 else r.cursor.line
    { r with cursor := { r.cursor with rest := c :: r.cursor.rest, used := r.cursor.used - 1, line } }

/-- How many characters are left. -/
def left : Read Nat := do pure (← get).cursor.rest.length

def isBlank (c : Char) : Bool := c = ' ' || c = '\t'

/-- Takes characters as long as they pass a test. -/
def takeWhile (test : Char → Bool) : Read (List Char) := do
  let found := (← get).cursor.rest.takeWhile test
  modify fun r =>
    { r with
      cursor :=
        { r.cursor with
          rest := r.cursor.rest.drop found.length, used := r.cursor.used + found.length
          line := r.cursor.line + found.count '\n' } }
  pure found

/-- The next character that is not a blank. -/
def takeShown : Read (Option Char) := do
  let _ ← takeWhile isBlank
  take

/-- The end of a command. -/
def readEnd : Read Unit := do
  match ← takeShown with
  | none | some '\n' | some ';' => pure ()
  | some c => if c = '\x7d' || c = '#' then putBack (some c) else fault "extra characters after command"

/-- A number that starts with a character. -/
def readNumber (c : Char) : Read Nat := do
  let more ← takeWhile Text.isAsciiDigit
  pure (Text.numberOf 10 (c :: more))

/-- A number, or zero. -/
def readAmount : Read Nat := do pure (Text.numberOf 10 (← takeWhile Text.isAsciiDigit))

/-! ### Texts -/

/-- The character of a number in some base. -/
def numbered (base limit : Nat) (cs : List Char) : Option (Char × List Char) :=
  let digits := (cs.takeWhile fun c => (Text.digitIn? base c).isSome).take limit
  if digits.isEmpty then none
  else some (Encoding.single (UInt8.ofNat (Text.numberOf base digits % 256)), cs.drop digits.length)

/-- The character that an escape stands for wherever it is, and the rest. -/
def escape? : List Char → Option (Char × List Char)
  | 'a' :: rest => some ('\x07', rest)
  | 'f' :: rest => some ('\x0c', rest)
  | 'n' :: rest => some ('\n', rest)
  | 'r' :: rest => some ('\r', rest)
  | 't' :: rest => some ('\t', rest)
  | 'v' :: rest => some ('\x0b', rest)
  | 'd' :: rest => numbered 10 3 rest
  | 'o' :: rest => numbered 8 3 rest
  | 'x' :: rest => numbered 16 2 rest
  | 'c' :: c :: rest => some (Char.ofNat ((c.toUpper.toNat + 64) % 128), rest)
  | _ => none

/-- An expression with its escapes replaced. -/
def plainRegex : Nat → List Char → List Char
  | 0, cs => cs
  | _ + 1, [] => []
  | fuel + 1, '\\' :: rest =>
    match escape? rest, rest with
    | some (c, after), _ => (if c = '\\' then ['\\', '\\'] else [c]) ++ plainRegex fuel after
    | none, c :: after => '\\' :: c :: plainRegex fuel after
    | none, [] => ['\\']
  | fuel + 1, c :: rest => c :: plainRegex fuel rest

/-- A text that is put in, without its backslashes. -/
def plainText : Nat → List Char → List Char
  | 0, cs => cs
  | _ + 1, [] => []
  | fuel + 1, '\\' :: rest =>
    match escape? rest, rest with
    | some (c, after), _ => c :: plainText fuel after
    | none, c :: after => c :: plainText fuel after
    | none, [] => []
  | fuel + 1, c :: rest => c :: plainText fuel rest

/-- What stands up to a delimiter. `expression` tells whether brackets hide it; nothing if it does not come. -/
def upTo (delimiter : Char) (expression : Bool) : Nat → Bool → Read (Option (List Char))
  | 0, _ => pure none
  | fuel + 1, inside => do
    let add (cs : List Char) (inside : Bool) : Read (Option (List Char)) := do
      pure ((← upTo delimiter expression fuel inside).map (cs ++ ·))
    match ← take with
    | none => pure none
    | some '\n' => do
      putBack (some '\n')
      pure none
    | some '\\' =>
      if inside then add ['\\'] inside
      else match ← take with
      | none => pure none
      | some c =>
        if c = delimiter then (if !expression && c = '&' then add ['\\', c] inside else add [c] inside)
        else if c = 'n' && expression then add ['\n'] inside
        else if c = '\n' then add (if expression then ['\n'] else ['\\', '\n']) inside
        else add ['\\', c] inside
    | some c =>
      if c = delimiter && !inside then pure (some [])
      else if !expression then add [c] inside
      else if c = '[' && !inside then
        -- a closing bracket that comes first stands for itself
        let r ← get
        let front : List Char := match r.cursor.rest with
          | '^' :: ']' :: _ => ['^', ']']
          | ']' :: _ => [']']
          | _ => []
        front.forM fun _ => do let _ ← take
        add ('[' :: front) true
      else if c = '[' && inside then
        -- a class within brackets has brackets of its own
        let r ← get
        match r.cursor.rest with
        | k :: _ =>
          if k = ':' || k = '.' || k = '=' then
            let body := (r.cursor.rest.drop 1).takeWhile fun d => d ≠ k
            if (r.cursor.rest.drop (2 + body.length)).head? = some ']' && !body.contains '\n' then
              (List.range (body.length + 3)).forM fun _ => do let _ ← take
              add ('[' :: k :: body ++ [k, ']']) inside
            else add [c] inside
          else add [c] inside
        | [] => add [c] inside
      else if c = ']' && inside then add [c] false
      else add [c] inside

/-- The style of expressions; two marks change it. -/
def Manner.style (m : Manner) (fold lines : Bool) : RegexStyle :=
  { extended := m.extended, fold, lines := lines && !m.zero, checked := true, paired := true, once := !m.extended }

/-- The query of an expression. -/
def readQuery (pattern : List Char) (fold lines : Bool) : Read Query := do
  if pattern.isEmpty then
    if fold || lines then fault "cannot specify modifiers on empty regexp"
    pure none
  else
    let style := (← get).manner.style fold lines
    match Regex.read style (plainRegex (pattern.length + 1) pattern) with
    | .ok regex => pure (some { style, regex })
    | .error .bareClass => throw { text := RegexFault.bareClass.message, status := 4 }
    | .error f => fault f.message

/-! ### Lines -/

/-- An expression as the address of lines, after its delimiter. -/
def readMatching (delimiter : Char) : Read Query := do
  match ← upTo delimiter true ((← left) + 1) false with
  | none => fault "unterminated address regex"
  | some pattern =>
    let marks ← takeWhile fun c => c = 'I' || c = 'M'
    readQuery pattern (marks.contains 'I') (marks.contains 'M')

/-- The first address; nothing if the character starts none. -/
def readPlace (c : Char) : Read (Option Place) := do
  if Text.isAsciiDigit c then
    let n ← readNumber c
    match ← takeShown with
    | some '~' => do
      let _ ← takeWhile isBlank
      pure (some (.every n (← readAmount)))
    | d => do
      putBack d
      pure (some (if n = 0 then .top else .line n))
  else if c = '$' then pure (some .last)
  else if c = '/' then pure (some (.matching (← readMatching '/')))
  else if c = '\\' then
    match ← take with
    | none | some '\n' => fault "unterminated address regex"
    | some d => pure (some (.matching (← readMatching d)))
  else if c = '+' || c = '~' then
    let _ ← takeWhile Text.isAsciiDigit
    fault "invalid usage of +N or ~N as first address"
  else pure none

/-- The second address. -/
def readBound (c : Option Char) : Read Bound := do
  match c with
  | none => fault "unexpected \x60,'"
  | some c =>
    if c = '+' || c = '~' then
      let digits ← takeWhile Text.isAsciiDigit
      if digits.isEmpty then fault "unexpected \x60,'"
      let n := Text.numberOf 10 digits
      pure (if c = '+' then .further n else .multiple n)
    else match ← readPlace c with
      | none => fault "unexpected \x60,'"
      | some (.line n) => pure (.line n)
      | some .top => pure (.line 0)
      | some (.every n _) => pure (.line n)
      | some .last => pure .last
      | some (.matching q) => pure (.matching q)

/-! ### Commands -/

/-- A name up to the end of the line. -/
def readName : Read String := do
  let _ ← takeWhile isBlank
  let name ← takeWhile (· ≠ '\n')
  let _ ← take
  if name.isEmpty then fault "missing filename in r/R/w/W commands"
  pure (String.ofList name)

/-- A label. -/
def readLabel : Read String := do
  let _ ← takeWhile isBlank
  pure (String.ofList (← takeWhile fun c => !(Text.isPlainBlank c || c = ';' || c = '\x7d')))

/-- The lines of a text up to one that does not end in a backslash; tells whether the text goes on in the next
part. -/
def readLines : Nat → Read (List Char × Bool)
  | 0 => pure ([], false)
  | fuel + 1 => do
    match ← take with
    | none | some '\n' => pure (['\n'], false)
    | some '\\' =>
      match ← take with
      | none => pure (['\n'], true)
      | some c => do
        let (more, goesOn) ← readLines fuel
        pure ('\\' :: c :: more, goesOn)
    | some c => do
      let (more, goesOn) ← readLines fuel
      pure (c :: more, goesOn)

/-- The text of a command that puts text in. -/
def readText : Read (List Char) := do
  match ← takeShown with
  | none => fault "expected \\ after \x60a', \x60c' or \x60i'"
  | some '\\' => do
    match ← take with
    | none => do
      modify fun r => { r with pending := true }
      pure []
    | some '\n' => do
      if (← left) = 0 then
        modify fun r => { r with pending := true }
        pure []
      else readOn
    | some c => do
      let text ← readOn
      pure (c :: text)
  | some c => do
    putBack (some c)
    readOn
where
  readOn : Read (List Char) := do
    let (cs, goesOn) ← readLines ((← left) + 1)
    modify fun r => { r with pending := goesOn }
    pure (plainText (cs.length + 1) cs)

/-- The pieces of a replacement. -/
def piecesOf : Nat → List Char → List Piece
  | 0, _ => []
  | _ + 1, [] => []
  | fuel + 1, '&' :: rest => .group 0 :: piecesOf fuel rest
  | fuel + 1, '\\' :: c :: rest =>
    if Text.isAsciiDigit c then .group (c.toNat - 48) :: piecesOf fuel rest
    else
      let change : Option CaseChange := match c with
        | 'U' => some .upper
        | 'L' => some .lower
        | 'u' => some .upperOne
        | 'l' => some .lowerOne
        | 'E' => some .keep
        | _ => none
      match change, escape? (c :: rest) with
      | some x, _ => .change x :: piecesOf fuel rest
      | none, some (d, after) => .text [d] :: piecesOf fuel after
      | none, none => .text [c] :: piecesOf fuel rest
  | fuel + 1, c :: rest => .text [c] :: piecesOf fuel rest

/-- The marks behind a replacement. -/
structure Marks where
  all : Bool := false
  prints : Bool := false
  runs : Bool := false
  fold : Bool := false
  lines : Bool := false
  number : Option Nat := none
  target : Option String := none

def readMarks : Nat → Marks → Read Marks
  | 0, m => pure m
  | fuel + 1, m => do
    match ← take with
    | none | some '\n' | some ';' => pure m
    | some 'i' | some 'I' => readMarks fuel { m with fold := true }
    | some 'm' | some 'M' => readMarks fuel { m with lines := true }
    | some 'e' => readMarks fuel { m with runs := true }
    | some 'p' => do
      if m.prints then fault "multiple \x60p' options to \x60s' command"
      readMarks fuel { m with prints := true }
    | some 'g' => do
      if m.all then fault "multiple \x60g' options to \x60s' command"
      readMarks fuel { m with all := true }
    | some 'w' => do pure { m with target := some (← readName) }
    | some '#' => do
      putBack (some '#')
      pure m
    | some '\r' => do
      if (← get).cursor.rest.head? = some '\n' then
        let _ ← take
        pure m
      else fault "unknown option to \x60s'"
    | some c =>
      if c = '\x7d' then do
        putBack (some c)
        pure m
      else if isBlank c then readMarks fuel m
      else if Text.isAsciiDigit c then do
        if m.number.isSome then fault "multiple number options to \x60s' command"
        let n ← readNumber c
        if n = 0 then fault "number option to \x60s' command may not be zero"
        readMarks fuel { m with number := some n }
      else fault "unknown option to \x60s'"

def readSubstitution : Read Action := do
  match ← take with
  | none | some '\n' | some '\\' => fault "unterminated \x60s' command"
  | some d => do
    let some pattern ← upTo d true ((← left) + 1) false | fault "unterminated \x60s' command"
    let some replacement ← upTo d false ((← left) + 1) false | fault "unterminated \x60s' command"
    let m ← readMarks ((← left) + 1) {}
    let pieces := piecesOf (replacement.length + 1) replacement
    let query ← readQuery pattern m.fold m.lines
    let most := pieces.foldl (fun n p => match p with
      | .group k => max n k
      | _ => n) 0
    if let some q := query then
      if Regex.groupCount q.regex < most then
        fault ("invalid reference \\" ++ toString most ++ " on \x60s' command's RHS")
    pure (.substitute
      { query, pieces, all := m.all, number := m.number.getD 1, prints := m.prints, runs := m.runs,
        target := m.target })

/-- The characters of a list that is exchanged. -/
def listed : List Char → List Char
  | '\\' :: c :: rest =>
    (match escape? [c] with
      | some (d, _) => d
      | none => c) :: listed rest
  | c :: rest => c :: listed rest
  | [] => []

def readTransliteration : Read Action := do
  match ← take with
  | none | some '\n' | some '\\' => fault "unterminated \x60y' command"
  | some d => do
    let some source ← upTo d false ((← left) + 1) false | fault "unterminated \x60y' command"
    let some target ← upTo d false ((← left) + 1) false | fault "unterminated \x60y' command"
    let a := listed source
    let b := listed target
    if a.length ≠ b.length then fault "strings for \x60y' command are different lengths"
    readEnd
    pure (.transliterate (a.zip b))

/-- A number that a command may take. -/
def readWidth : Read (Option Nat) := do
  match ← takeShown with
  | some c =>
    if Text.isAsciiDigit c then
      let n ← readNumber c
      readEnd
      pure (some n)
    else do
      putBack (some c)
      readEnd
      pure none
  | none => pure none

/-- A command that has no more to it. -/
def alone (a : Action) : Read Action := do
  readEnd
  pure a

/-- A command that may not be used in the sandbox. -/
def guarded (r : Read Action) : Read Action := do
  if (← get).manner.sandbox then fault "e/r/w commands disabled in sandbox mode"
  r

/-- The command of a letter; nothing if the letter only closes a block or names a place. -/
def readAction (selection : Selection) (c : Char) : Read (Option Action) := do
  let only (r : Read Action) : Read (Option Action) := some <$> r
  match c with
  | '=' => only (alone .number)
  | 'a' => only (Action.append <$> readText)
  | 'i' => only (Action.insert <$> readText)
  | 'c' => only (Action.change <$> readText)
  | 'b' => only (labelled .branch)
  | 't' => only (labelled .branchIf)
  | 'T' => only (labelled .branchUnless)
  | 'd' => only (alone .delete)
  | 'D' => only (alone .deleteLine)
  | 'e' => only (guarded do
      let _ ← takeWhile isBlank
      let command ← takeWhile (· ≠ '\n')
      let _ ← take
      pure (.run command))
  | 'F' => only (alone .fileName)
  | 'g' => only (alone .get)
  | 'G' => only (alone .getAppend)
  | 'h' => only (alone .hold)
  | 'H' => only (alone .holdAppend)
  | 'l' => only (Action.list <$> readWidth)
  | 'n' => only (alone .next)
  | 'N' => only (alone .nextAppend)
  | 'p' => only (alone .print)
  | 'P' => only (alone .printLine)
  | 'q' => only (quitting .quit)
  | 'Q' => only (quitting .quitSilently)
  | 'r' => only (guarded (Action.readFile <$> readName))
  | 'R' => only (guarded (Action.readLine <$> readName))
  | 's' => only readSubstitution
  | 'w' => only (guarded (Action.write <$> readName))
  | 'W' => only (guarded (Action.writeLine <$> readName))
  | 'x' => only (alone .exchange)
  | 'y' => only readTransliteration
  | 'z' => only (alone .zap)
  | 'v' => do
    let wanted ← readLabel
    let parts := (wanted.splitOn ".").map fun p => Text.numberOf 10 (p.toList.takeWhile Text.isAsciiDigit)
    if 4 < parts.headD 0 || (parts.headD 0 = 4 && 9 < parts.getD 1 0) then fault "expected newer version of sed"
    pure none
  | ':' => do
    if selection.first.isSome then fault ": doesn't want any addresses"
    let label ← do
      let _ ← takeWhile isBlank
      pure (String.ofList (← takeWhile fun c => !(Text.isPlainBlank c || c = ';')))
    if label = "" then fault "\":\" lacks a label"
    modify fun r => { r with script := { r.script with labels := (label, r.script.steps.size) :: r.script.labels } }
    pure none
  | c => fault ("unknown command: \x60" ++ String.singleton c ++ "'")
where
  labelled (make : String → Action) : Read Action := do
    let label ← readLabel
    let _ ← takeWhile isBlank
    if (← get).cursor.rest.head? = some ';' then
      let _ ← take
    pure (make label)
  quitting (make : Nat → Action) : Read Action := do
    if selection.final.isSome then fault "command only uses one address"
    pure (make ((← readWidth).getD 0))

/-- Adds a command. -/
def push (selection : Selection) (action : Action) : Read Unit :=
  modify fun r => { r with script := { r.script with steps := r.script.steps.push { selection, action } } }

/-- A comment; one that comes first of all may turn printing off. -/
def readComment : Read Unit := do
  let r ← get
  let first := r.cursor.used = 1 && (r.cursor.origin = .argument 1 || r.script.steps.isEmpty)
  let text ← takeWhile (· ≠ '\n')
  if first && text = ['n'] then modify fun r => { r with script := { r.script with quiet := true } }

/-- The addresses of a command, and the character after them. -/
def readSelection (c : Char) : Read (Selection × Option Char) := do
  match ← readPlace c with
  | none => pure ({}, some c)
  | some place => do
    let next ← takeShown
    let (final, next) ← if next = some ',' then do
        let bound ← readBound (← takeShown)
        pure (some bound, ← takeShown)
      else pure (none, next)
    let isTop : Bool := match place, final with
      | .top, some (.matching _) => false
      | .top, _ => true
      | _, _ => false
    if isTop then fault "invalid usage of line address 0"
    pure ({ first := some place, final }, next)

/-- A command that starts with a character. -/
def readStep (c : Char) : Read Unit := do
  if c = '#' then readComment
  else
    let (selection, next) ← readSelection c
    let (selection, next) ← if next = some '!' then do
        let d ← takeShown
        if d = some '!' then fault "multiple \x60!'s"
        pure ({ selection with inverted := true }, d)
      else pure (selection, next)
    match next with
    | none | some '\n' => do
      -- the end of the text does not count
      fault "missing command"
    | some '#' => do
      if selection.first.isSome then fault "comments don't accept any addresses"
      readComment
    | some c =>
      if c = '\x7b' then
        modify fun r => { r with blocks := (r.script.steps.size, r.cursor.shown true) :: r.blocks }
        push selection (.block 0)
      else if c = '\x7d' then
        match (← get).blocks with
        | [] => fault "unexpected \x60\x7d'"
        | (start, _) :: blocks => do
          if selection.first.isSome then fault "\x60\x7d' doesn't want any addresses"
          readEnd
          modify fun r =>
            let past := r.script.steps.size
            { r with
              blocks
              script :=
                { r.script with steps := r.script.steps.modify start fun s => { s with action := .block past } } }
      else match ← readAction selection c with
        | some action => push selection action
        | none => pure ()

/-- The commands of a part. -/
def readSteps : Nat → Read Unit
  | 0 => pure ()
  | fuel + 1 => do
    match ← take with
    | none => pure ()
    | some c => do
      if !(Text.isPlainBlank c || c = ';') then readStep c
      readSteps fuel

/-- More text of the last command. -/
def readPending : Read Unit := do
  if (← get).pending then
    let (cs, goesOn) ← readLines ((← left) + 1)
    let more := plainText (cs.length + 1) cs
    modify fun r =>
      let last := r.script.steps.size - 1
      let steps := r.script.steps.modify last fun s =>
        { s with
          action := match s.action with
            | .append text => .append (text ++ more)
            | .insert text => .insert (text ++ more)
            | .change text => .change (text ++ more)
            | a => a }
      { r with pending := goesOn, script := { r.script with steps } }

/-- A part of a script. -/
def readPart (origin : Origin) (text : List Char) : Read Unit := do
  modify fun r => { r with cursor := { origin, rest := text } }
  if !text.isEmpty then readPending
  readSteps (text.length + 2)

/-- The labels that branches name. -/
def Script.wanted (s : Script) : List String :=
  s.steps.toList.filterMap fun step => match step.action with
    | .branch l | .branchIf l | .branchUnless l => if l = "" then none else some l
    | _ => none

/-- The script that several parts make up. -/
def readScript (manner : Manner) (parts : List (Origin × List Char)) : Except Fault Script := do
  let act : Read Unit := parts.forM fun (origin, text) => readPart origin text
  let start : Reading := { cursor := { origin := .argument 1, rest := [] }, manner }
  let ((), r) ← act.run start
  if let (_, place) :: _ := r.blocks then throw { text := place ++ "unmatched \x60\x7b'" }
  match r.script.wanted.find? fun l => (r.script.labels.lookup l).isNone with
  | some l => throw { text := "can't find label for jump to \x60" ++ l ++ "'", status := 4 }
  | none => pure r.script

end Editor
end LintRun.Shell
