import LintRun.Shell.Escape
import LintRun.Shell.Parameter
import LintRun.Shell.System

/-!
# Shell — Programs of the system: common ground

How the programs of the system read their options, name things in messages, and take in files.

* `Tool.Plain`: what a program does with its arguments; the answer is its status.
* `Choice`: an option that was given, and its value; `readOptions` reads them.
* `quotedFor`, `shownName`: a word and the name of a file in a message.
* `eachFile`: goes through the files that are named, or takes the input.
-/

namespace LintRun.Shell
namespace Tool

/-- A word between quotation marks, which are typographic ones where the character set has them. -/
def quotedFor (s : State) (word : String) : String :=
  let escaped := String.ofList (word.toList.flatMap fun c =>
    if c = '\n' then "\\n".toList
    else if c = '\t' then "\\t".toList
    else if c = '\\' then "\\\\".toList
    else if c = '\'' && s.charset = .ascii then "\\'".toList
    else if s.charset = .ascii && 0x7F ≤ c.toNat then
      (Encoding.encodeChar c).flatMap fun b => '\\' :: Escape.octal b
    else [c])
  match s.charset with
  | .utf8 => "‘" ++ escaped ++ "’"
  | .ascii => "'" ++ escaped ++ "'"

/-- The characters that make a file name be put between quotes. -/
def isOdd (c : Char) : Bool := " \t\n!\"#$&'()*;<=>?[\\]^\x60\x7b|\x7d~:".toList.contains c || c.toNat < 32

/-- A file name between quotes, as one could write it in a script. -/
def quotedName (s : State) (name : String) : String :=
  if Escape.needsAnsi s.charset name then
    let rec go (inside : Bool) : List Char → List Char
      | [] => if inside then ['\''] else []
      | c :: rest =>
        if Escape.isShown s.charset c && c ≠ '\'' then (if inside then [] else ['\'']) ++ c :: go true rest
        else
          (if inside then ['\''] else []) ++ "$'".toList ++ Escape.ansiChar s.charset c ++ ['\''] ++ go false rest
    let text := go true name.toList
    String.ofList ('\'' :: text)
  else if name.toList.contains '\'' && !(name.toList.any fun c => "\"$\\\x60".toList.contains c) then
    "\"" ++ name ++ "\""
  else Escape.single name

/-- A file name in a message: it is between quotes if it holds anything odd. -/
def shownName (s : State) (name : String) : String :=
  let cs := name.toList
  let odd := cs.isEmpty || cs.any (fun c => isOdd c && !("#~=".toList.contains c)) || cs.head? = some '#' ||
    cs.head? = some '~' || Escape.needsAnsi s.charset name
  if odd then quotedName s name else name

/-- The program says something in its own name. -/
def remark (text : String) : Act Unit := do say 2 ((← get).name ++ ": " ++ text)

/-- The program says what is wrong, and gives a status. -/
def fail (text : String) (status : Nat := 1) : Act Nat := do
  remark text
  pure status

/-- The program says that it was called in a wrong way. -/
def misuse (text : String) (status : Nat := 1) : Act Nat := do
  if text ≠ "" then remark text
  let s ← get
  say 2 ("Try '" ++ s.name ++ " --help' for more information.")
  pure status

/-! ### Options -/

/-- An option that was given: the letter or the name that it is known by, and its value. -/
structure Choice where
  key : String
  value : String := ""
  deriving DecidableEq, Repr

/-- Whether an option takes a value. -/
inductive Taking
  | never
  | always
  | maybe
  deriving DecidableEq, Repr

/-- An option that a program knows. -/
structure Known where
  key : String
  letter : Option Char
  name : Option String
  taking : Taking

/-- A known option from its description: a letter, a slash, a name, and a mark if it takes a value. -/
def Known.ofText (text : String) : Known :=
  let cs := text.toList
  let (cs, taking) : List Char × Taking :=
    match cs.reverse with
    | '?' :: '=' :: rest => (rest.reverse, .maybe)
    | '=' :: rest => (rest.reverse, .always)
    | _ => (cs, .never)
  match Text.cutAt? '/' cs with
  | some ([c], name) =>
    { key := String.singleton c, letter := some c, name := if name.isEmpty then none else some (String.ofList name),
      taking }
  | some (_, name) => { key := String.ofList name, letter := none, name := some (String.ofList name), taking }
  | none => { key := String.ofList cs, letter := cs.head?, name := none, taking }

/-- The letters of one argument; the answer is the options, and what is left of the other arguments. -/
def letters (known : List Known) (rest : List String) : List Char → Except String (List Choice × List String)
  | [] => .ok ([], rest)
  | c :: cs =>
    match known.find? fun k => k.letter = some c with
    | none => .error ("invalid option -- '" ++ String.singleton c ++ "'")
    | some k =>
      match k.taking with
      | .never => (letters known rest cs).map fun (found, rest) => ({ key := k.key } :: found, rest)
      | .maybe => .ok ([{ key := k.key, value := String.ofList cs }], rest)
      | .always =>
        match cs, rest with
        | _ :: _, _ => .ok ([{ key := k.key, value := String.ofList cs }], rest)
        | [], value :: rest => .ok ([{ key := k.key, value }], rest)
        | [], [] => .error ("option requires an argument -- '" ++ String.singleton c ++ "'")

/-- An option that is given by its name, which may be cut short as long as it is clear. -/
def longOption (known : List Known) (text : String) (rest : List String) :
    Except String (List Choice × List String) :=
  let (name, value) := match Text.cutAt? '=' text.toList with
    | some (name, value) => (String.ofList name, some (String.ofList value))
    | none => (text, none)
  let named (k : Known) : String := k.name.getD ""
  let all := known.filter fun k => (named k).startsWith name && k.name.isSome
  let exact := known.filter fun k => k.name = some name
  match if exact.isEmpty then all else exact.take 1 with
  | [] => .error ("unrecognized option '--" ++ name ++ "'")
  | [k] =>
    match k.taking, value, rest with
    | .never, some _, _ => .error ("option '--" ++ named k ++ "' doesn't allow an argument")
    | .never, none, _ => .ok ([{ key := k.key }], rest)
    | .maybe, v, _ => .ok ([{ key := k.key, value := v.getD "" }], rest)
    | .always, some v, _ => .ok ([{ key := k.key, value := v }], rest)
    | .always, none, v :: rest => .ok ([{ key := k.key, value := v }], rest)
    | .always, none, [] => .error ("option '--" ++ named k ++ "' requires an argument")
  | several =>
    .error ("option '--" ++ name ++ "' is ambiguous; possibilities:" ++
      String.join (several.map fun k => " '--" ++ named k ++ "'"))

/-- The options among so many arguments, and the other ones; the first one of those may end the options. -/
def readOptions (known : List Known) (mixed : Bool) : Nat → List String → Except String (List Choice × List String)
  | 0, words => .ok ([], words)
  | _ + 1, [] => .ok ([], [])
  | fuel + 1, a :: rest =>
    if a = "--" then .ok ([], rest)
    else if a.startsWith "--" then do
      let (found, rest) ← longOption known (a.drop 2).toString rest
      let (more, words) ← readOptions known mixed fuel rest
      .ok (found ++ more, words)
    else if a.startsWith "-" && a ≠ "-" then do
      let (found, rest) ← letters known rest (a.toList.drop 1)
      let (more, words) ← readOptions known mixed fuel rest
      .ok (found ++ more, words)
    else if mixed then do
      let (more, words) ← readOptions known mixed fuel rest
      .ok (more, a :: words)
    else .ok ([], a :: rest)

/-- What a program does with its arguments; the answer is its status. -/
abbrev Plain := List String → Act Nat

/-- A program with options, and the status that faults in them give. -/
def withChoices (known : List String) (act : List Choice → List String → Act Nat) (status : Nat := 1)
    (mixed : Bool := true) : Plain := fun arguments => do
  match readOptions (known.map Known.ofText) mixed (arguments.length + 1) arguments with
  | .error text => misuse text status
  | .ok (chosen, words) => act chosen words

/-- Whether an option was given. -/
def has (chosen : List Choice) (key : String) : Bool := chosen.any fun c => c.key = key

/-- The value of an option, as it was given last. -/
def value? (chosen : List Choice) (key : String) : Option String :=
  (chosen.reverse.find? fun c => c.key = key).map Choice.value

/-- The option out of several that was given last. -/
def lastOf? (chosen : List Choice) (keys : List String) : Option String :=
  (chosen.reverse.find? fun c => keys.contains c.key).map Choice.key

/-! ### Files -/

/-- The bytes of a file; a dash stands for the input. -/
def readSource (path : String) : Act (Except Refusal (List UInt8)) := do
  if path = "-" then .ok <$> takeInput else readFile path

/-- Goes through files, or takes the input if none is named; a file that cannot be read is reported. -/
def eachFile (words : List String) (act : String → List UInt8 → Act Nat) : Act Nat :=
  (if words.isEmpty then ["-"] else words).foldlM (fun status path => do
    match ← readSource path with
    | .ok bytes => do
      let r ← act path bytes
      pure (max status r)
    | .error r => do
      remark (shownName (← get) path ++ ": " ++ r.text)
      pure (max status 1)) 0

/-- All that files hold, one after another. -/
def allBytes (words : List String) : Act (List UInt8 × Nat) := do
  let mut bytes : Array (List UInt8) := #[]
  let mut status := 0
  for path in (if words.isEmpty then ["-"] else words) do
    match ← readSource path with
    | .ok bs => bytes := bytes.push bs
    | .error r => do
      remark (shownName (← get) path ++ ": " ++ r.text)
      status := 1
  pure (bytes.toList.flatten, status)

/-- The lines that bytes make up, without their ends; and whether the last one has an end. -/
def lines (mark : UInt8) (bytes : List UInt8) : List (List UInt8) × Bool :=
  let parts := Text.splitAt mark bytes
  match parts.reverse with
  | [] :: rest => (rest.reverse, true)
  | _ => (parts, bytes.isEmpty)

/-- Lines with their ends. -/
def unlines (mark : UInt8) (ls : List (List UInt8)) : List UInt8 := ls.flatMap (· ++ [mark])

/-- A number of bytes or lines with a unit behind it. -/
def sized? (text : String) : Option Nat :=
  let digits := text.toList.takeWhile Text.isAsciiDigit
  let unit := String.ofList (text.toList.drop digits.length)
  let factor : Option Nat :=
    [("", 1), ("b", 512), ("K", 1024), ("k", 1024), ("KiB", 1024), ("kB", 1000), ("KB", 1000),
      ("M", Nat.pow 1024 2), ("MiB", Nat.pow 1024 2), ("MB", Nat.pow 1000 2),
      ("G", Nat.pow 1024 3), ("GiB", Nat.pow 1024 3), ("GB", Nat.pow 1000 3)].lookup unit
  if digits.isEmpty then none else factor.map (· * Text.numberOf 10 digits)

/-- Text for bytes that hold plain marks. -/
def ascii (text : String) : List UInt8 := bytesOf text.toList

end Tool
end LintRun.Shell
