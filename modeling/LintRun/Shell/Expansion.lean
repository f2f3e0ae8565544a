import LintRun.Shell.Arithmetic
import LintRun.Shell.Brace
import LintRun.Shell.Escape
import LintRun.Shell.Field
import LintRun.Shell.Reader.Word
import LintRun.Shell.System

/-!
# Shell — Expansion

From the words of a script to texts.

* `expandPieces`: a word with its parameters, commands and sums replaced.
* `wordFields`, `wordText`: the fields of a word, and a word as one text.
* `Values`, `expandUse`: what a parameter stands for, and what is made of it.

What stands in `$(…)` is run by the engine that every expansion takes.
-/

namespace LintRun.Shell

/-- What a parameter stands for: one text, or several, which may be joined. -/
inductive Values
  | single (value : Option String)
  | many (values : List String) (joined : Bool)

namespace Values

def map (f : String → String) : Values → Values
  | .single v => .single (v.map f)
  | .many vs joined => .many (vs.map f) joined

/-- Whether anything is there; an empty text may count as nothing. -/
def isThere (emptyToo : Bool) : Values → Bool
  | .single none => false
  | .single (some v) => !(emptyToo && v = "")
  | .many vs _ => !vs.isEmpty && !(emptyToo && vs.all (· = "") && vs.length ≤ 1)

end Values

/-- The bits that values stand for. -/
def valueBits (s : State) (quoted : Bool) : Values → List Bit
  | .single v => bitsOf quoted (v.getD "").toList
  | .many vs joined =>
    if quoted && joined then bitsOf true (Text.joinWith (joint s) vs).toList
    else cutBits quoted (if joined then joint s else " ") vs

/-- How a message names a parameter. -/
def label (name : String) (subscript : String) : String :=
  if subscript = "" then name else name ++ "[" ++ subscript ++ "]"

/-- A parameter that is asked for and not there. -/
def refuseUnset (name : String) : Act α := do
  let isMark := !isName name.toList
  match (← get).dialect with
  | .bash => do
    complain ((if isMark && !(name.toList.contains '[') then "$" else "") ++ name ++ ": unbound variable")
    let s ← get
    exit (if s.has "errexit" || 0 < s.subshells then 1 else 127)
  | .posix => abort (name ++ ": parameter not set")

/-! ### Parts of values -/

/-- The part of a text from a place on; a negative place counts from the end. -/
def sliceText (start : Int) (size : Option Int) (text : String) : Except Int String :=
  let cs := text.toList
  let n : Int := cs.length
  let start := if start < 0 then n + start else start
  if start < 0 || n < start then .ok ""
  else
    let stop := match size with
      | none => n
      | some k => if k < 0 then n + k else min n (start + k)
    if stop < start then .error (size.getD 0)
    else .ok (String.ofList ((cs.drop start.toNat).take (stop - start).toNat))

/-- The elements of a list from a subscript on. -/
def sliceEntries (start : Int) (size : Option Int) (entries : List (Nat × String)) : Except Int (List String) :=
  let last : Int := (entries.getLast?.map fun (n, _) => (n : Int) + 1).getD 0
  let start := if start < 0 then last + start else start
  if start < 0 then .ok []
  else match size with
    | none => .ok ((entries.filter fun (n, _) => start ≤ (n : Int)).map Prod.snd)
    | some k =>
      if k < 0 then .error k
      else .ok (((entries.filter fun (n, _) => start ≤ (n : Int)).take k.toNat).map Prod.snd)

/-- What takes the place of a match: characters, and the match itself. -/
inductive Replacement
  | char (c : Char)
  | matched

/-- The parts of a replacement; an unquoted ampersand stands for the match if that is on. -/
def replacementOf (ampersand : Bool) : List Glyph → List Replacement
  | [] => []
  | ⟨'\\', false⟩ :: g :: rest =>
    if ampersand && (g.char = '&' || g.char = '\\') then .char g.char :: replacementOf ampersand rest
    else .char '\\' :: replacementOf ampersand (g :: rest)
  | g :: rest =>
    (if ampersand && g = ⟨'&', false⟩ then .matched else .char g.char) :: replacementOf ampersand rest

def putReplacement (matched : List Char) (parts : List Replacement) : List Char :=
  parts.flatMap fun
    | .char c => [c]
    | .matched => matched

/-- Replaces all matches from a place on; after an empty match one character is taken over. -/
def replaceEvery (text : Array Char) (p : Pattern) (parts : List Replacement) : Nat → Nat → List Char
  | 0, _ => []
  | fuel + 1, start =>
    if text.size ≤ start then []
    else match Pattern.find? false text p start with
      | none => (text.extract start text.size).toList
      | some (i, e) =>
        let before := (text.extract start i).toList
        let own := putReplacement (text.extract i e).toList parts
        if e = i then before ++ own ++ (text.extract i (i + 1)).toList ++ replaceEvery text p parts fuel (i + 1)
        else before ++ own ++ replaceEvery text p parts fuel e

def replaceText (scope : Scope) (p : Pattern) (parts : List Replacement) (value : String) : String :=
  let cs := value.toList
  let text := cs.toArray
  let whole := match scope with
    | .every => if p.isEmpty then cs else replaceEvery text p parts (text.size + 1) 0
    | .first =>
      if p.isEmpty then cs
      else match Pattern.find? false text p 0 with
        | none => cs
        | some (i, e) => cs.take i ++ putReplacement ((cs.take e).drop i) parts ++ cs.drop e
    | .front =>
      match (Pattern.reach false text p [0]).getLast? with
      | some e => putReplacement (cs.take e) parts ++ cs.drop e
      | none => cs
    | .back =>
      match (List.range (text.size + 1)).find? fun i => (Pattern.reach false text p [i]).getLast? = some text.size with
      | some i => cs.take i ++ putReplacement (cs.drop i) parts
      | none => cs
  String.ofList whole

/-- The letters of a text in another case, all of them or the first one, where a pattern accepts them. -/
def recaseText (r : Recasing) (all : Bool) (p : Pattern) (value : String) : String :=
  let one (c : Char) : Char := if p.isEmpty || p.accepts false [c] then recased r c else c
  match value.toList with
  | [] => ""
  | c :: rest => String.ofList (one c :: if all then rest.map one else rest)

/-- The attributes of a variable as letters. -/
def attributeLetters (v : Variable) : String :=
  let kind := match v.content with
    | .list _ => "a"
    | .table _ => "A"
    | .text _ => ""
  let case := match v.recasing with
    | some .lower => "l"
    | some .upper => "u"
    | some _ => "c"
    | none => ""
  kind ++ (if v.integer then "i" else "") ++ (if v.reference then "n" else "") ++ (if v.fixed then "r" else "") ++
    (if v.traced then "t" else "") ++ (if v.exported then "x" else "") ++ case

/-- The elements of a variable as a declaration shows them. -/
def listText (set : Charset) (c : Content) : String :=
  let shown := c.entries.map fun (k, v) =>
    let key := match k with
      | .number n => toString n
      | .name t => if Escape.hasMark t || t = "" then Escape.declared set t else Escape.named set t
    "[" ++ key ++ "]=" ++ Escape.declared set v
  let isTable := match c with
    | .table _ => true
    | _ => false
  "(" ++ Text.joinWith " " shown ++ (if isTable && !shown.isEmpty then " )" else ")")

/-- A variable as a declaration. -/
def declarationText (set : Charset) (name : String) (v : Variable) : String :=
  let letters := attributeLetters v
  let head := "declare " ++ (if letters = "" then "--" else "-" ++ letters) ++ " " ++ name
  match v.content with
  | .text none | .list none | .table none => head
  | .text (some t) => head ++ "=" ++ Escape.declared set t
  | c => head ++ "=" ++ listText set c

/-- A text with the escapes of a prompt put in. -/
def promptText (s : State) : List Char → List Char
  | '\\' :: c :: rest =>
    (match c with
      | 'u' => "root".toList
      | 'h' | 'H' => ((value? s "HOSTNAME").getD "localhost").toList
      | 'w' => (directoryText s.tree).toList
      | 'W' => ((s.tree.home.getLast?).getD "/").toList
      | 's' => (s.name.toList.reverse.takeWhile (· ≠ '/')).reverse
      | '$' => ['#']
      | 'n' => ['\n']
      | 'e' => ['\x1b']
      | 'a' => ['\x07']
      | '\\' => ['\\']
      | '[' | ']' => []
      | 'v' => "5.2".toList
      | 'V' => "5.2.21".toList
      | c => ['\\', c]) ++ promptText s rest
  | c :: rest => c :: promptText s rest
  | [] => []

/-- One value as an operator letter shows it; nothing if there is no such operator. -/
def transformText? (s : State) (letter : Char) (value : String) : Option String :=
  match letter with
  | 'Q' | 'K' | 'k' => some (Escape.reusable s.charset value)
  | 'E' =>
    let bytes := ((ansiText? (value.length + 2) (value.toList ++ ['\''])).map Prod.fst).getD (bytesOf value.toList)
    some (String.ofList (Encoding.decode s.charset bytes))
  | 'P' => some (String.ofList (promptText s value.toList))
  | 'U' => some (recaseText .upper true [] value)
  | 'u' => some (recaseText .upper false [] value)
  | 'L' => some (recaseText .lower true [] value)
  | _ => none

/-- What an operator letter makes of a parameter. -/
def transform (source : String) (name : String) (letter : Char) (values : Values) : Act Values := do
  let s ← get
  let v? := binding? s name
  match letter, values with
  | 'a', .single v => pure (.single (if v.isSome || v?.isSome then some (attributeLetters (v?.getD {})) else none))
  | 'a', .many vs joined => pure (.many (vs.map fun _ => attributeLetters (v?.getD {})) joined)
  | 'A', .many vs joined =>
    match v? with
    | some v => pure (.single (some (declarationText s.charset name v)))
    | none =>
      if vs.isEmpty then pure (.many [] joined)
      else pure (.single (some ("set -- " ++ Text.joinWith " " (vs.map (Escape.reusable s.charset)))))
  | 'A', .single v =>
    pure (.single (v.map fun t =>
      let letters := attributeLetters (v?.getD {})
      let shown := name ++ "=" ++ Escape.reusable s.charset t
      if letters = "" then shown else "declare -" ++ letters ++ " " ++ shown))
  | 'K', .many _ joined =>
    let entries := (v?.map fun v => v.content.entries).getD []
    let shown := entries.map fun (k, t) => k.text ++ " " ++ Escape.declared s.charset t
    pure (.many [Text.joinWith " " shown] joined)
  | 'k', .many _ joined =>
    let entries := (v?.map fun v => v.content.entries).getD []
    pure (.many (entries.flatMap fun (k, t) => [k.text, t]) joined)
  | _, values =>
    match transformText? s letter "" with
    | none => spoil (source ++ ": bad substitution")
    | some _ => pure (values.map fun t => (transformText? s letter t).getD t)

/-! ### Parameters -/

/-- The parameter that a text names: a name, and a subscript. -/
def referenceOf? (text : String) : Option (String × Option String) :=
  let cs := text.toList
  let name := cs.takeWhile Text.isNameChar
  let rest := cs.drop name.length
  if isName name then
    if rest.isEmpty then some (text, none)
    else if rest.head? = some '[' && rest.getLast? = some ']' then
      some (String.ofList name, some (String.ofList (rest.drop 1).dropLast))
    else none
  else match cs with
    | [c] => if isSpecial c || Text.isAsciiDigit c then some (text, none) else none
    | cs => if !cs.isEmpty && cs.all Text.isAsciiDigit then some (text, none) else none

/-- What a name stands for without a subscript. -/
def nameValues (s : State) (name : String) : Values :=
  match name with
  | "@" => .many s.arguments false
  | "*" => .many s.arguments true
  | _ => .single (parameter s name)

/-- What a name stands for with a subscript. -/
def elementValues (name subscript : String) : Act Values := do
  match subscript with
  | "@" => pure (.many (((binding? (← get) name).map fun v => v.content.values).getD []) false)
  | "*" => pure (.many (((binding? (← get) name).map fun v => v.content.values).getD []) true)
  | _ => do
    if (binding? (← get) name).isNone then
      pure (.single none)
    else
      let s ← get
      let content := ((binding? s name).map Variable.content).getD (.text none)
      match content with
      | .table _ => pure (.single (content.get? (.name subscript)))
      | _ => do
        let n ← sum subscript.toList
        let n := if n < 0 then n + (content.nextNumber : Nat) else n
        if n < 0 then
          complain (name ++ ": bad array subscript")
          pure (.single none)
        else pure (.single (content.get? (.number n.toNat)))

/-- What the parameter stands for that a value names. -/
def indirectValues (name : String) (values : Values) : Act Values := do
  match values with
  | .single none => spoil (name ++ ": invalid indirect expansion")
  | .many [] _ => pure (.single none)
  | .single (some text) => follow text
  | .many vs _ => follow (Text.joinWith " " vs)
where
  follow (text : String) : Act Values := do
    match referenceOf? text with
    | none => spoil (text ++ ": invalid variable name")
    | some (target, none) => pure (nameValues (← get) target)
    | some (target, some subscript) => elementValues target subscript

/-- The names of the variables that start like this. -/
def namesFrom (s : State) (start : String) : List String :=
  let names := (s.bindings.filter fun (n, v) => n.startsWith start && v.content.isSet).map Prod.fst
  names.mergeSort fun a b => Text.compareCodes a.toList b.toList != .gt

/-- The text that a command wrote, as a word takes it in. -/
def takenOutput (bytes : List UInt8) : Act (List Char) := do
  let s ← get
  if s.isBash && bytes.contains 0 then complain "warning: command substitution: ignored null byte in input"
  pure (Text.dropFinalNewlines (Encoding.decode s.charset (bytes.filter (· ≠ 0))))

/-- A step within `$(…)`: in one dialect it goes on after failures. -/
def forgiving (act : Act Unit) : Act Unit := do
  let s ← get
  if s.isBash && !s.has "inherit_errexit" then
    set { s with options := s.options.filter (· ≠ "errexit") }
  act

/-- Runs a text that stands in a word. -/
def runInside (e : Engine) (text : List Char) : Act Unit := do
  let s ← get
  e.text "command substitution" (if s.isBash then s.line else 1) text

/-- Runs commands that stand in a word. One dialect keeps them as text, so that their lines are those of the text. -/
def runBody (e : Engine) (body : List Command) : Act Unit := do
  match (← get).dialect with
  | .bash => runInside e (Layout.inline body).toList
  | .posix => e.commands body

/-- The bytes of a file that a word stands for. -/
def contentOf (path : String) : Act (List UInt8) := do
  match ← readFile path with
  | .ok bytes => do
    setStatus 0
    modify fun s => { s with substituted := true }
    pure bytes
  | .error r => do
    complain (path ++ ": " ++ r.text)
    setStatus 1
    modify fun s => { s with substituted := true }
    pure []

/-- The highest descriptor that is free. -/
def freeDescriptor (s : State) : Nat :=
  ((List.range 50).map (63 - ·)).find? (fun n => (streamOf s n).isNone) |>.getD 13

mutual

/-- The bits of a word. -/
def expandPieces (e : Engine) : List Piece → Act (List Bit)
  | [] => pure []
  | piece :: rest => do
    let first ← expandPiece e piece
    let more ← expandPieces e rest
    pure (first ++ more)

def expandPiece (e : Engine) : Piece → Act (List Bit)
  | .text cs quoted => pure (literalBits quoted cs)
  | .broken source => do
    match (← get).dialect with
    | .bash => spoil (source ++ ": bad substitution")
    | .posix => abort "Bad substitution"
  | .names start joined quoted => do
    let s ← get
    pure (valueBits s quoted (.many (namesFrom s start) joined))
  | .script text quoted => do
    let bytes ← captured e (forgiving (runInside e text))
    pure (bitsOf quoted (← takenOutput bytes))
  | .output [.simple line [] [] [.mk handle .read (.mk source target)]] quoted => do
    let s ← get
    let reads := match handle with
      | none | some (.number 0) => true
      | _ => false
    if s.isBash && reads then
      let bits ← expandPieces e target
      let bytes ← contentOf (textOf (glyphsOf bits))
      pure (bitsOf quoted (← takenOutput bytes))
    else
      let bytes ← captured e (e.commands [.simple line [] [] [.mk handle .read (.mk source target)]])
      pure (bitsOf quoted (← takenOutput bytes))
  | .output body quoted => do
    let bytes ← captured e (forgiving (runBody e body))
    pure (bitsOf quoted (← takenOutput bytes))
  | .process reads body => do
    let n := freeDescriptor (← get)
    if reads then
      let status := (← get).status
      let before := (← get).substituted
      let bytes ← captured e (forgiving (runBody e body))
      modify fun s => { s with status, substituted := before }
      redirect n (← newSource bytes)
    else
      redirect n (.pipe (1000 + n))
      modify fun s => { s with feeds := (n, body) :: s.feeds }
    pure (literalBits true ("/dev/fd/" ++ toString n).toList)
  | .arithmetic body quoted => do
    let bits ← expandPieces e body
    let n ← sum ((glyphsOf bits).map Glyph.char)
    pure (bitsOf quoted (toString n).toList)
  | .parameter target use quoted => do
    let (name, subscript, values) ← expandTarget e target
    expandUse e name subscript values quoted use

/-- What a parameter is called, its subscript, and what it stands for. -/
def expandTarget (e : Engine) : Parameter → Act (String × String × Values)
  | .mk name .none false => do
    pure (name, "", nameValues (← get) name)
  | .mk name .none true => do
    let values ← indirectValues name (nameValues (← get) name)
    pure (name, "", values)
  | .mk name (.every joined) indirect => do
    let values ← elementValues name (if joined then "*" else "@")
    pure (name, if joined then "*" else "@", ← if indirect then indirectValues name values else pure values)
  | .mk name (.at index _) indirect => do
    let bits ← expandPieces e index
    let subscript := textOf (glyphsOf bits)
    let values ← elementValues name (if subscript = "@" || subscript = "*" then "0" else subscript)
    pure (name, subscript, ← if indirect then indirectValues name values else pure values)

def expandUse (e : Engine) (name subscript : String) (values : Values) (quoted : Bool) : Use → Act (List Bit)
  | .plain => do
    require
    pure (valueBits (← get) quoted values)
  | .length => do
    require
    let s ← get
    let size := match values with
      | .single v => (v.getD "").length
      | .many vs _ =>
        -- a plain shell counts the characters of all of them
        if s.isBash then vs.length else (valueBits s true (.many vs true)).length
    pure (bitsOf quoted (toString size).toList)
  | .keys => do
    let s ← get
    let keys := ((binding? s name).map fun v => v.content.entries.map fun (k, _) => k.text).getD []
    pure (valueBits s quoted (.many keys (subscript = "*")))
  | .fallback kind emptyToo word => do
    let there := values.isThere emptyToo
    match kind with
    | .value =>
      if there then pure (valueBits (← get) quoted values)
      else do
        let bits ← expandPieces e word
        pure (if bits.isEmpty then bitsOf quoted [] else bits.map (Bit.opened quoted))
    | .alternative =>
      if !there then
        match values with
        | .many [] false => pure []
        | _ => pure (bitsOf quoted [])
      else do
        let bits ← expandPieces e word
        pure (if bits.isEmpty then bitsOf quoted [] else bits.map (Bit.opened quoted))
    | .assign =>
      if there then pure (valueBits (← get) quoted values)
      else do
        let bits ← expandPieces e word
        let text := textOf (glyphsOf bits)
        if !isName name.toList then
          match (← get).dialect with
          | .bash => spoil ("$" ++ name ++ ": cannot assign in this way")
          | .posix => abort (name ++ ": bad variable name")
        else
          if subscript = "" then assign name text
          else
            let _ ← store name (some (← keyOf name subscript.toList)) text
          pure (bitsOf quoted text.toList)
    | .complaint =>
      if there then pure (valueBits (← get) quoted values)
      else do
        let bits ← expandPieces e word
        let text := textOf (glyphsOf bits)
        let standard := if emptyToo then "parameter null or not set" else "parameter not set"
        abort (label name subscript ++ ": " ++ if text = "" then standard else text)
  | .cut fromStart longest word => do
    require
    let bits ← expandPieces e word
    let s ← get
    let pattern := Pattern.ofGlyphs (s.has "extglob") (glyphsOf bits)
    let cut (text : String) : String :=
      String.ofList (if fromStart then pattern.cutFront longest text.toList else pattern.cutBack longest text.toList)
    pure (valueBits s quoted (values.map cut))
  | .slice start size => do
    require
    let number (bits : List Bit) : Act Int := do
      modify fun s => { s with speaker := name }
      let n ← sum ((glyphsOf bits).map Glyph.char)
      modify fun s => { s with speaker := "" }
      pure n
    let first ← number (← expandPieces e start)
    let size ← match size with
      | none => pure none
      | some pieces => some <$> number (← expandPieces e pieces)
    let s ← get
    let refuse (n : Int) : Act (List Bit) := spoil (toString n ++ ": substring expression < 0")
    match values with
    | .single v =>
      match sliceText first size (v.getD "") with
      | .ok text => pure (valueBits s quoted (.single (v.map fun _ => text)))
      | .error n => refuse n
    | .many vs joined =>
      let entries : List (Nat × String) :=
        if name = "@" || name = "*" then
          let all := (if first = 0 then [s.name] else []) ++ vs
          all.zipIdx (if first = 0 then 0 else 1) |>.map fun (t, i) => (i, t)
        else match (binding? s name).map Variable.content with
          | some (.list (some es)) => es
          | _ => vs.zipIdx.map fun (t, i) => (i, t)
      match sliceEntries first size entries with
      | .ok vs => pure (valueBits s quoted (.many vs joined))
      | .error n => refuse n
  | .replace scope pattern replacement => do
    require
    let patternBits ← expandPieces e pattern
    let bits ← expandPieces e replacement
    let s ← get
    let pattern := Pattern.ofGlyphs (s.has "extglob") (glyphsOf patternBits)
    let parts := replacementOf (s.has "patsub_replacement") (glyphsOf bits)
    pure (valueBits s quoted (values.map (replaceText scope pattern parts)))
  | .recase recasing all word => do
    require
    let bits ← expandPieces e word
    let s ← get
    let pattern := Pattern.ofGlyphs (s.has "extglob") (glyphsOf bits)
    pure (valueBits s quoted (values.map (recaseText recasing all pattern)))
  | .transform letter => do
    require
    let source := "$\x7b" ++ label name subscript ++ "@" ++ String.singleton letter ++ "\x7d"
    let values ← transform source name letter values
    pure (valueBits (← get) quoted values)
where
  /-- The parameter has to be there if that is asked for. -/
  require : Act Unit := do
    match values with
    | .single none => if (← get).has "nounset" then refuseUnset (label name subscript)
    | _ => pure ()

end

/-! ### Words -/

/-- Whether a word holds all arguments between quotes, so that its quotes alone make no field. -/
def holdsArguments (ps : List Piece) : Bool := ps.any fun
  | .parameter (.mk "@" .none _) _ true => true
  | .parameter (.mk _ (.every false) _) _ true => true
  | .names _ false true => true
  | _ => false

def isEmptyText : Piece → Bool
  | .text [] _ => true
  | _ => false

/-- The directory that a tilde and a name stand for. -/
def tildeText? (s : State) (name : List Char) : Option String :=
  match String.ofList name with
  | "" => (value? s "HOME").orElse fun _ => if s.isBash then some "/root" else none
  | "root" => some "/root"
  | "+" => if s.isBash then value? s "PWD" else none
  | "-" => if s.isBash then value? s "OLDPWD" else none
  | _ => none

/-- Home directories in place of tildes at the front, and behind each colon of an assigned text. -/
def expandTilde (s : State) (assigned : Bool) (ps : List Piece) : List Piece :=
  match ps with
  | .text cs false :: rest =>
    let parts := if assigned then Text.splitAt ':' cs else [cs]
    let count := parts.length
    let one (part : List Char) (i : Nat) : List Piece :=
      match part with
      | '~' :: more =>
        let name := more.takeWhile (· ≠ '/')
        let isOpen := name.length = more.length && i + 1 = count && !rest.isEmpty
        match (if isOpen then none else tildeText? s name) with
        | some text => [.text text.toList true, .text (more.drop name.length) false]
        | none => [.text part false]
      | _ => [.text part false]
    let pieces := (parts.zipIdx.map fun (p, i) => one p i).intersperse [.text [':'] false]
    joinTexts (pieces.flatten ++ rest)
  | _ => ps

/-- A word that has the form of an assignment: its value has tildes of its own. -/
def expandTildes (s : State) (ps : List Piece) : List Piece :=
  match ps with
  | .text cs false :: rest =>
    match s.isBash, Text.cutAt? '=' cs with
    | true, some (name, value) =>
      if isName name then
        let first : List Piece := if value.isEmpty then rest else .text value false :: rest
        joinTexts (.text (name ++ ['=']) false :: expandTilde s true first)
      else expandTilde s false ps
    | _, _ => expandTilde s false ps
  | _ => ps

/-- The glyphs of the fields of one word without braces. -/
def pieceFields (e : Engine) (ps : List Piece) : Act (List (List Glyph)) := do
  let own := expandTildes (← get) ps
  let bits ← expandPieces e (if holdsArguments ps then own.filter fun p => !isEmptyText p else own)
  pure (fieldsOf (separators (← get)) bits)

/-- Several results one after another. -/
def concat (act : α → Act (List β)) : List α → Act (List β)
  | [] => pure []
  | a :: rest => do
    let first ← act a
    let more ← concat act rest
    pure (first ++ more)

/-- The fields of a word. -/
def wordFields (e : Engine) (w : Word) : Act (List String) := do
  let s ← get
  let words := if s.isBash && s.has "braceexpand" then Brace.expand w.pieces else [w.pieces]
  concat (fun ps => do concat fileNames (← pieceFields e ps)) words

/-- The fields of several words, in order. -/
def wordsFields (e : Engine) (ws : List Word) : Act (List String) := concat (wordFields e) ws

/-- A word that is not cut into fields. -/
def wordGlyphs (e : Engine) (w : Word) : Act (List Glyph) := do
  let bits ← expandPieces e (expandTilde (← get) false w.pieces)
  pure (glyphsOf bits)

/-- A word as one text. -/
def wordText (e : Engine) (w : Word) : Act String := do pure (textOf (← wordGlyphs e w))

/-- A word that is assigned, as one text. -/
def assignedText (e : Engine) (w : Word) : Act String := do
  let bits ← expandPieces e (expandTilde (← get) true w.pieces)
  pure (textOf (glyphsOf bits))

/-- A word that is a single file name: a pattern that stands for one is replaced. -/
def targetText (e : Engine) (w : Word) : Act (Option String) := do
  let s ← get
  match s.dialect with
  | .posix => some <$> wordText e w
  | .bash =>
    match ← wordFields e w with
    | [text] => pure (some text)
    | _ => pure none

/-- The text of a regular expression in which quoted characters stand for themselves. -/
def regexText (gs : List Glyph) : List Char :=
  gs.flatMap fun g =>
    if g.quoted && ".[]()*+?\x7b\x7d|^$\\".toList.contains g.char then ['\\', g.char] else [g.char]

end LintRun.Shell
