import LintRun.Shell.Format
import LintRun.Shell.Layout
import LintRun.Shell.Place

/-!
# Shell — Reading words

Words with their quotes, parameters and the commands within them. How commands are read is up to the caller.

* `readWord`: the word that stands here, up to a mark of the grammar.
* `readText`: a whole text as between double quotes.
* `readSubscript`: what stands between square brackets.

The readers of a word take a bound on their depth, which is never reached: each call takes a character or leads to
one that does.
-/

namespace LintRun.Shell

/-- How characters are quoted where they stand. -/
inductive Quoting
  /-- Not at all. -/
  | none
  /-- Between double quotes. -/
  | double
  /-- In a text in place, where double quotes have no meaning unless they stand in braces. -/
  | document
  /-- In an arithmetic expression, where double quotes are passed over. -/
  | sum
  deriving DecidableEq, Repr

/-- The characters that a backslash guards; between double quotes it stays in front of all others. -/
def Quoting.guarded (q : Quoting) (braced : Bool) : List Char :=
  match q with
  | .document => if braced then "$\x60\"\\\x7d".toList else "$\x60\\".toList
  | _ => if braced then "$\x60\"\\\x7d".toList else "$\x60\"\\".toList

/-- A test for the end of what is read, on the rest of the text. -/
abbrev Stop := List Char → Bool

/-- The end of a word. -/
def wordEnd (bash : Bool) : Stop
  | '<' :: '(' :: _ | '>' :: '(' :: _ => !bash
  | c :: _ => isMeta c
  | [] => true

/-- The end of a word that is a regular expression. -/
def regexEnd : Stop
  | c :: _ => isMeta c && c ≠ '(' && c ≠ '|'
  | [] => true

/-- The end at one of these marks. -/
def endAt (marks : List Char) : Stop
  | c :: _ => marks.contains c
  | [] => true

/-- A character that never starts anything. -/
def isOrdinary (c : Char) : Bool := Text.isAsciiLetter c || Text.isAsciiDigit c || "_-./=:,%^~ \n#".toList.contains c

/-- The text between quotes that follow a dollar sign, with its escapes, and the rest after the closing one. -/
def ansiText? : Nat → List Char → Option (List UInt8 × List Char)
  | 0, _ => none
  | _ + 1, [] => none
  | _ + 1, '\'' :: rest => some ([], rest)
  | fuel + 1, '\\' :: rest =>
    match escape .bash .quote rest with
    | some (bytes, n) => (ansiText? fuel (rest.drop n)).map fun (more, r) => (bytes ++ more, r)
    | none => none
  | fuel + 1, c :: rest => (ansiText? fuel rest).map fun (more, r) => (bytesOf [c] ++ more, r)

/-- A text from a position on, with some parts of it written in another way, the first ones first. -/
def respell (position : Nat) (text : List Char) : List (Nat × Nat × List Char) → List Char
  | [] => text
  | (start, stop, own) :: rest =>
    if start < position then respell position text rest
    else text.take (start - position) ++ own ++ respell stop (text.drop (stop - position)) rest

/-- The source of what was read between two places. -/
def sourceBetween (before after : Place) : List Char :=
  let text := before.rest.take (after.taken - before.taken)
  -- a part that holds others has been taken after them
  let spans := (after.spans.takeWhile fun (_, stop, _) => before.taken ≤ stop).filter fun (start, stop, _) =>
    before.taken ≤ start && stop ≤ after.taken
  let outer := spans.foldl (fun kept (s : Nat × Nat × List Char) =>
    if kept.any fun (k : Nat × Nat × List Char) => k.1 ≤ s.1 && s.2.1 ≤ k.2.1 then kept else s :: kept) []
  respell before.taken text outer

/-- Has what was read since a place written in another way. -/
def writeAs (before : Place) (text : List Char) : Read Unit :=
  modify fun p => { p with spans := (before.taken, p.taken, text) :: p.spans }

/-- A fault inside a command that stands in a word: the end of the text leaves the bracket open. -/
def SyntaxFault.insideWord (f : SyntaxFault) : SyntaxFault :=
  if f.trouble = .ended then { f with trouble := .unclosed ')' }
  else match f.trouble with
    | .unclosed _ => f
    | _ => { f with nested := true }

/-- A fault of a text that was opened on this line and is not closed. -/
def SyntaxFault.openedAt (line : Nat) (mark : Char) (f : SyntaxFault) : SyntaxFault :=
  if f.trouble = .unclosed mark then { f with line } else f

/-- A step with its faults changed. -/
def Read.mapFault (change : SyntaxFault → SyntaxFault) (act : Read α) : Read α := fun p => (act p).mapError change

/-- Takes the mark that has to stand here. -/
def close (mark : Char) : Read Unit := do
  let p ← get
  if p.peek = some mark then set (p.skip 1) else fail (.unclosed mark)

/-- The commands of a text between backquotes, in a plain shell: what comes after them is passed over. Faults have
lines of their own. -/
def writtenCommands (inner : Read (List Command)) (text : List Char) : Read (List Char) := do
  let p ← get
  let ended (f : SyntaxFault) : SyntaxFault :=
    if f.trouble = .ended then { f with trouble := .endedWithin (1 + text.count '\n') } else f
  match inner.run { p with rest := text, line := 1, owed := 0 } with
  | .ok (_, after) => pure (if after.lines.rest.isEmpty then text else text.take (text.length - after.rest.length))
  | .error f => throw (ended f)

mutual

/-- Pieces up to the end that the test finds, or the end of the text. -/
def readPieces (inner : Read (List Command)) (q : Quoting) (braced : Bool) (stop : Stop) : Nat → Read (List Piece)
  | 0 => unexpected
  | fuel + 1 => do
    let p ← get
    if p.rest.isEmpty || stop p.rest then pure []
    else
      let run := p.rest.takeWhile fun c => isOrdinary c && !stop [c]
      if run.isEmpty then
        let first ← readPiece inner q braced fuel
        let more ← readPieces inner q braced stop fuel
        pure (joinTexts (first ++ more))
      else
        set (p.skip run.length)
        let more ← readPieces inner q braced stop fuel
        pure (joinTexts (.text run (q ≠ .none) :: more))

/-- One part of a word, whatever character it starts with. -/
def readPiece (inner : Read (List Command)) (q : Quoting) (braced : Bool) : Nat → Read (List Piece)
  | 0 => unexpected
  | fuel + 1 => do
    let p ← get
    let quoted := q ≠ .none
    let literal (c : Char) : Read (List Piece) := do
      set (p.skip 1)
      pure [.text [c] quoted]
    match p.rest with
    | [] => pure []
    | '\\' :: '\n' :: _ => do
      set (p.skip 2)
      pure []
    | ['\\'] => do
      set (p.skip 1)
      pure [.text ['\\'] true]
    | '\\' :: c :: _ => do
      set (p.skip 2)
      pure [.text (if quoted && !(q.guarded braced).contains c then ['\\', c] else [c]) true]
    | '\'' :: _ =>
      if quoted then literal '\''
      else do
        set (p.skip 1)
        let text ← Read.mapFault (SyntaxFault.openedAt p.line '\'') readSingle
        pure [.text text true]
    | '"' :: _ =>
      if q = .document && !braced then literal '"'
      else if q = .sum then
        set (p.skip 1)
        pure []
      else
        set (p.skip 1)
        let pieces ← readPieces inner .double false (endAt ['"']) fuel
        if (← get).rest.isEmpty then throw ⟨p.line, .unclosed '"', none, false⟩
        skip 1
        pure (.text [] true :: pieces)
    | '$' :: _ => do
      set (p.skip 1)
      readDollar inner q fuel
    | '\x60' :: rest => do
      match backquoted? (q = .double) rest with
      | some (text, n) => do
        set (p.skip (n + 1))
        let own ← if p.isBash then pure text else writtenCommands inner text
        pure [.script own quoted]
      | none => fail (.unclosed '\x60')
    | c :: '(' :: _ =>
      if !quoted && p.isBash && (c = '<' || c = '>') then do
        set (p.skip 2)
        let body ← Read.mapFault SyntaxFault.insideWord do
          let body ← inner
          expect ")"
          pure body
        pure [.process (c = '<') body]
      else if !quoted && p.manner.extended && "?*+@!".toList.contains c then do
        set (p.skip 2)
        let pieces ← readGroup inner braced fuel
        pure (.text [c, '('] false :: pieces)
      else literal c
    | c :: _ => literal c

/-- Pieces up to the bracket that closes a group, and this bracket; all that stands between them may be in the word. -/
def readGroup (inner : Read (List Command)) (braced : Bool) : Nat → Read (List Piece)
  | 0 => unexpected
  | fuel + 1 => do
    let pieces ← readPieces inner .none braced (endAt ['(', ')']) fuel
    let p ← get
    match p.rest with
    | '(' :: _ => do
      set (p.skip 1)
      let group ← readGroup inner braced fuel
      let more ← readGroup inner braced fuel
      pure (pieces ++ .text ['('] false :: group ++ more)
    | ')' :: _ => do
      set (p.skip 1)
      pure (pieces ++ [.text [')'] false])
    | _ => fail (.unclosed ')')

/-- Pieces up to the bracket that closes a subscript; it is taken, too. -/
def readBracket (inner : Read (List Command)) (q : Quoting) : Nat → Read (List Piece)
  | 0 => unexpected
  | fuel + 1 => do
    let pieces ← readPieces inner q false (endAt ['[', ']']) fuel
    let p ← get
    match p.rest with
    | '[' :: _ => do
      set (p.skip 1)
      let group ← readBracket inner q fuel
      let more ← readBracket inner q fuel
      pure (pieces ++ .text ['['] (q ≠ .none) :: group ++ .text [']'] (q ≠ .none) :: more)
    | ']' :: _ => do
      set (p.skip 1)
      pure pieces
    | _ => fail (.unclosed ']')

/-- What follows a dollar sign. -/
def readDollar (inner : Read (List Command)) (q : Quoting) : Nat → Read (List Piece)
  | 0 => unexpected
  | fuel + 1 => do
    let p ← get
    let quoted := q ≠ .none
    let single (name : String) : Piece := .parameter (.mk name .none false) .plain quoted
    let sum (opening size : Nat) : Read (List Piece) := do
      let text := (p.rest.drop opening).take size
      let (body, _) ← (readPieces inner .sum false (fun _ => false) fuel).run (p.within text)
      set (p.skip (2 * opening + size))
      pure [.arithmetic body quoted]
    let output : Read (List Piece) := do
      set (p.skip 1)
      let body ← Read.mapFault SyntaxFault.insideWord do
        let body ← inner
        expect ")"
        pure body
      writeAs p ('(' :: (Layout.inline body).toList ++ [')'])
      pure [.output body quoted]
    match p.rest with
    | '(' :: '(' :: rest =>
      match sumLength? rest with
      | some n => sum 2 n
      | none => if p.isBash && (closingLength '(' ')' 0 rest).isSome then output else fail .openSum
    | '(' :: _ => output
    | '{' :: _ => do
      set (p.skip 1)
      Read.mapFault (SyntaxFault.openedAt p.line '\x7d') (readBraced inner q fuel)
    | '[' :: rest =>
      match p.isBash, closingLength '[' ']' 0 rest with
      | true, some n => sum 1 n
      | _, _ => pure [.text ['$'] quoted]
    | '\'' :: rest =>
      if p.isBash && q = .none then
        match ansiText? (rest.length + 1) rest with
        | some (bytes, after) => do
          let text := Encoding.decode p.manner.charset (bytes.takeWhile (· ≠ 0))
          set (p.skip (p.rest.length - after.length))
          writeAs { p with taken := p.taken - 1 } (Layout.singleQuoted text).toList
          pure [.text text true]
        | none => fail (.unclosed '\'')
      else pure [.text ['$'] quoted]
    | '"' :: _ =>
      if p.isBash && q = .none then do
        writeAs { p with taken := p.taken - 1 } []
        pure []
      else pure [.text ['$'] quoted]
    | c :: rest =>
      if Text.isNameStart c then do
        let name := c :: rest.takeWhile Text.isNameChar
        set (p.skip name.length)
        pure [single (String.ofList name)]
      else if Text.isAsciiDigit c || isSpecial c then do
        set (p.skip 1)
        pure [single (String.singleton c)]
      else pure [.text ['$'] quoted]
    | [] => pure [.text ['$'] quoted]

/-- What stands in braces after a dollar sign. If nothing can be made of it, that shows when it is used. -/
def readBraced (inner : Read (List Command)) (q : Quoting) : Nat → Read (List Piece)
  | 0 => unexpected
  | fuel + 1 => do
    let start ← get
    match ← readParameter inner q fuel with
    | some piece => pure [piece]
    | none => do
      set start
      let _ ← readPieces inner (if q = .none then .none else .double) true (endAt ['\x7d']) fuel
      let source := sourceBetween start (← get)
      close '\x7d'
      pure [.broken ("$\x7b" ++ String.ofList source ++ "\x7d")]

/-- A parameter with what is to be made of it, if that makes sense. -/
def readParameter (inner : Read (List Command)) (q : Quoting) : Nat → Read (Option Piece)
  | 0 => unexpected
  | fuel + 1 => do
    let p ← get
    let quoted := q ≠ .none
    let size : Parameter := .mk "#" .none false
    match p.rest with
    | '#' :: '}' :: _ => do
      set (p.skip 2)
      pure (some (.parameter size .plain quoted))
    | '#' :: _ => do
      set (p.skip 1)
      match ← readTarget inner fuel with
      | some target =>
        if (← get).peek = some '\x7d' then do
          skip 1
          pure (some (.parameter target .length quoted))
        else do
          set (p.skip 1)
          readUse inner q size fuel
      | none => do
        set (p.skip 1)
        readUse inner q size fuel
    | '!' :: c :: _ =>
      if !p.isBash || "\x7d-=+:%/^,".toList.contains c then do
        set (p.skip 1)
        readUse inner q (.mk "!" .none false) fuel
      else do
        set (p.skip 1)
        match ← readTarget inner fuel with
        | none => pure none
        | some (.mk name subscript _) =>
          let after ← get
          match subscript, after.rest with
          | .every joined, '}' :: _ => do
            skip 1
            pure (some (.parameter (.mk name (.every joined) false) .keys quoted))
          | .none, '*' :: '}' :: _ | .none, '@' :: '}' :: _ => do
            skip 2
            pure (some (.names name (after.peek = some '*') quoted))
          | _, _ => readUse inner q (.mk name subscript true) fuel
    | _ => do
      match ← readTarget inner fuel with
      | some target => readUse inner q target fuel
      | none => pure none

/-- The name of a parameter, with a subscript if there is one. -/
def readTarget (inner : Read (List Command)) : Nat → Read (Option Parameter)
  | 0 => unexpected
  | fuel + 1 => do
    let p ← get
    match p.rest with
    | [] => fail (.unclosed '\x7d')
    | c :: rest =>
      if isSpecial c then do
        set (p.skip 1)
        pure (some (.mk (String.singleton c) .none false))
      else
        let name := if Text.isAsciiDigit c then p.rest.takeWhile Text.isAsciiDigit
          else if Text.isNameStart c then c :: rest.takeWhile Text.isNameChar else []
        if name.isEmpty then pure none
        else do
          set (p.skip name.length)
          let q ← get
          match q.isBash && Text.isNameStart c, q.rest with
          | true, '[' :: '@' :: ']' :: _ => do
            set (q.skip 3)
            pure (some (.mk (String.ofList name) (.every false) false))
          | true, '[' :: '*' :: ']' :: _ => do
            set (q.skip 3)
            pure (some (.mk (String.ofList name) (.every true) false))
          | true, '[' :: _ => do
            set (q.skip 1)
            let index ← readBracket inner .none fuel
            let source := (sourceBetween (q.skip 1) (← get)).dropLast
            pure (some (.mk (String.ofList name) (.at index (String.ofList source)) false))
          | _, _ => pure (some (.mk (String.ofList name) .none false))

/-- What is to be made of a parameter, up to the closing brace. -/
def readUse (inner : Read (List Command)) (q : Quoting) (target : Parameter) : Nat → Read (Option Piece)
  | 0 => unexpected
  | fuel + 1 => do
    let p ← get
    let quoted := q ≠ .none
    let done (use : Use) : Read (Option Piece) := do
      close '\x7d'
      pure (some (.parameter target use quoted))
    let fallback (kind : Fallback) (emptyToo : Bool) : Read (Option Piece) := do
      set (p.skip (if emptyToo then 2 else 1))
      let word ← readPieces inner q true (endAt ['\x7d']) fuel
      done (.fallback kind emptyToo word)
    let cut (fromStart longest : Bool) : Read (Option Piece) := do
      set (p.skip (if longest then 2 else 1))
      let pattern ← readPieces inner .none true (endAt ['\x7d']) fuel
      done (.cut fromStart longest pattern)
    let recase (recasing : Recasing) (all : Bool) : Read (Option Piece) := do
      set (p.skip (if all then 2 else 1))
      let pattern ← readPieces inner .none true (endAt ['\x7d']) fuel
      done (.recase recasing all pattern)
    let replace (scope : Scope) (size : Nat) : Read (Option Piece) := do
      set (p.skip size)
      let first ← match scope, (← get).rest with
        | .every, '/' :: _ => do
          skip 1
          pure [.text ['/'] false]
        | _, _ => pure []
      let pattern ← readPieces inner .none true (endAt ['/', '\x7d']) fuel
      let replacement ← if (← get).peek = some '/' then do
          skip 1
          readPieces inner .none true (endAt ['\x7d']) fuel
        else pure []
      done (.replace scope (joinTexts (first ++ pattern)) replacement)
    match p.rest with
    | [] => fail (.unclosed '\x7d')
    | '}' :: _ => done .plain
    | ':' :: '-' :: _ => fallback .value true
    | ':' :: '=' :: _ => fallback .assign true
    | ':' :: '+' :: _ => fallback .alternative true
    | ':' :: '?' :: _ => fallback .complaint true
    | '-' :: _ => fallback .value false
    | '=' :: _ => fallback .assign false
    | '+' :: _ => fallback .alternative false
    | '?' :: _ => fallback .complaint false
    | '#' :: '#' :: _ => cut true true
    | '#' :: _ => cut true false
    | '%' :: '%' :: _ => cut false true
    | '%' :: _ => cut false false
    | c :: next =>
      if !p.isBash then pure none
      else match c, next with
        | ':', _ => do
          set (p.skip 1)
          let start ← readPieces inner .sum true (endAt [':', '\x7d']) fuel
          let size ← if (← get).peek = some ':' then do
              skip 1
              some <$> readPieces inner .sum true (endAt ['\x7d']) fuel
            else pure none
          if start.isEmpty && size.isNone then pure none else done (.slice start size)
        | '/', '/' :: _ => replace .every 2
        | '/', '#' :: _ => replace .front 2
        | '/', '%' :: _ => replace .back 2
        | '/', _ => replace .first 1
        | '^', '^' :: _ => recase .upper true
        | '^', _ => recase .upper false
        | ',', ',' :: _ => recase .lower true
        | ',', _ => recase .lower false
        | '~', '~' :: _ => recase .other true
        | '~', _ => recase .other false
        | '@', letter :: '}' :: _ => do
          set (p.skip 2)
          done (.transform letter)
        | _, _ => pure none

end

/-- A bound for the depth of reading a text. -/
def readBound (p : Place) : Nat := 4 * p.rest.length + 16

/-- Pieces up to an end, as they are quoted where they stand. -/
def readUpTo (inner : Read (List Command)) (q : Quoting) (stop : Stop) : Read (List Piece) := do
  readPieces inner q false stop (readBound (← get))

/-- Something that is read, with the text that it was read from. -/
def withSource (act : Read α) : Read (List Char × α) := do
  let before ← get
  let a ← act
  pure (sourceBetween before (← get), a)

/-- A word up to an end. -/
def readWordTo (inner : Read (List Command)) (stop : Stop) : Read Word := do
  let (source, pieces) ← withSource (readUpTo inner .none stop)
  pure (.mk source pieces)

/-- A word; it is empty if none stands here. -/
def readWord (inner : Read (List Command)) : Read Word := do
  readWordTo inner (wordEnd (← get).isBash)

/-- A whole text, as it is quoted where it stands. -/
def readText (inner : Read (List Command)) (q : Quoting) (text : List Char) : Read Word := do
  let p ← get
  let (pieces, _) ← ((readUpTo inner q fun _ => false).run (p.within text) : Except SyntaxFault _)
  pure (.mk text pieces)

/-- A regular expression: brackets and bars may stand in it. -/
def readRegexPieces (inner : Read (List Command)) : Nat → Read (List Piece)
  | 0 => unexpected
  | fuel + 1 => do
    let pieces ← readPieces inner .none false (fun cs => regexEnd cs || endAt ['(', '|'] cs) (readBound (← get))
    let p ← get
    match p.rest with
    | '(' :: _ => do
      set (p.skip 1)
      let group ← readGroup inner false (readBound p)
      let more ← readRegexPieces inner fuel
      pure (joinTexts (pieces ++ .text ['('] false :: group ++ more))
    | '|' :: rest =>
      if rest.head? = some '|' then pure pieces
      else do
        set (p.skip 1)
        let more ← readRegexPieces inner fuel
        pure (joinTexts (pieces ++ .text ['|'] false :: more))
    | _ => pure pieces

def readRegex (inner : Read (List Command)) : Read Word := do
  let (source, pieces) ← withSource (readRegexPieces inner ((← get).rest.length + 1))
  pure (.mk source pieces)

/-- What stands between square brackets; the opening one has been taken. -/
def readSubscript (inner : Read (List Command)) : Read Word := do
  let (source, pieces) ← withSource (do readBracket inner .none (readBound (← get)))
  pure (.mk source.dropLast pieces)

end LintRun.Shell
