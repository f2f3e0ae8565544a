import LintRun.Shell.Records.Reader
import LintRun.Shell.Records.Table
import LintRun.Shell.Redirection
import LintRun.Shell.Tool.Start

/-!
# Shell — The record processor: state

What is kept while records are gone through.

* `Machine`: variables, arrays, the record with its fields, input and output.
* `Work`: a step of a script; it may leave the statements around it early (`Leave`).
* `getField`, `setField`: the record and its fields.
* `nextRecord`: the next record of the input.
* `emit`, `flushAll`, `closeNamed`: output, which waits until it has to be written.
-/

namespace LintRun.Shell
namespace Records

/-- A text that records are read from. -/
structure Feed where
  text : Array Char
  place : Nat := 0

/-- What a name stands for. -/
inductive Cell
  | scalar (v : Value)
  | array (n : Nat)
  /-- Nothing was done with the name but handing it on; it may become this array. -/
  | undecided (n : Nat)

/-- A file or a command that has been opened for output, and what waits to be written. -/
structure Outlet where
  isCommand : Bool
  name : String
  stream : Option Stream
  pending : List (List Char) := []

/-- A file or a command that records are read from on their own, and how the command has ended. -/
structure Inlet where
  isCommand : Bool
  name : String
  feed : Feed
  status : Nat := 0

/-- Why statements are left before their end. -/
inductive Leave
  | loop
  | round
  | record
  | file
  | function (v : Value)
  | finished
  /-- The script cannot go on; it was said why. -/
  | stopped

structure Machine where
  globals : Std.HashMap String Cell := {}
  arrays : Array Table := #[]
  /-- The names of the function that is being run. -/
  locals : List (String × Cell) := []
  record : String := ""
  fields : Array Value := #[]
  /-- The number of the next argument that may be a file. -/
  argument : Nat := 1
  feed : Option Feed := none
  /-- Some file has been named among the arguments. -/
  named : Bool := false
  inlets : List Inlet := []
  outlets : List Outlet := []
  out : List (List Char) := []
  outSize : Nat := 0
  /-- The rules whose ranges have been entered. -/
  inside : List Nat := []
  patterns : Std.HashMap String Regex := {}
  seed : Float := Float.ofNat Clock.start
  random : Nat := 1
  /-- The values that the functions being run keep. -/
  stack : Nat := 0
  status : Nat := 0

abbrev Work := ExceptT Leave (StateT Machine Act)

/-- A step of the shell. -/
def act (a : Act α) : Work α := ExceptT.lift (StateT.lift a)

/-! ### Variables -/

def startCells : List (String × Value) :=
  [("FS", .text " "), ("OFS", .text " "), ("ORS", .text "\n"), ("RS", .text "\n"), ("SUBSEP", .text "\x1c"),
    ("CONVFMT", .text "%.6g"), ("OFMT", .text "%.6g"), ("NR", .number 0), ("FNR", .number 0), ("RSTART", .number 0),
    ("RLENGTH", .number (-1)), ("FILENAME", .text "")]

def cell? (name : String) : Work (Option Cell) := do
  let m ← get
  pure ((m.locals.lookup name).orElse fun _ => m.globals.get? name)

def putCell (name : String) (c : Cell) : Work Unit :=
  modify fun m =>
    if (m.locals.lookup name).isSome then
      { m with locals := m.locals.map fun (n, old) => if n = name then (n, c) else (n, old) }
    else { m with globals := m.globals.insert name c }

/-- The value of a name, whatever function is being run. -/
def special (name : String) : Work Value := do
  match (← get).globals.get? name with
  | some (.scalar v) => pure v
  | _ => pure .blank

def setSpecial (name : String) (v : Value) : Work Unit :=
  modify fun m => { m with globals := m.globals.insert name (.scalar v) }

def convertFormat : Work String := do pure ((← special "CONVFMT").toText "%.6g")

def textOf (v : Value) : Work String := do
  match v with
  | .number _ => do pure (v.toText (← convertFormat))
  | v => pure (v.toText "")

def specialText (name : String) : Work String := do textOf (← special name)

/-- The array that a name stands for. -/
def arrayOf (name : String) : Work Nat := do
  match ← cell? name with
  | some (.array n) | some (.undecided n) => pure n
  | _ => do
    let n := (← get).arrays.size
    modify fun m => { m with arrays := m.arrays.push {} }
    putCell name (.array n)
    pure n

def table (n : Nat) : Work Table := do pure (((← get).arrays[n]?).getD {})

def setTable (n : Nat) (t : Table) : Work Unit := modify fun m => { m with arrays := m.arrays.setIfInBounds n t }

/-! ### Output -/

/-- Writes what waits for the main output. -/
def flushMain : Work Unit := do
  let m ← get
  if !m.out.isEmpty then
    set { m with out := [], outSize := 0 }
    act (write 1 (bytesOf m.out.reverse.flatten))

def emit (cs : List Char) : Work Unit := do
  modify fun m => { m with out := cs :: m.out, outSize := m.outSize + cs.length }
  if 4096 ≤ (← get).outSize then flushMain

/-- Writes what waits for files. -/
def flushFiles : Work Unit := do
  let m ← get
  for o in m.outlets do
    if let some stream := o.stream then
      if !o.pending.isEmpty then act (writeTo stream (bytesOf o.pending.reverse.flatten))
  modify fun m => { m with outlets := m.outlets.map fun o => if o.stream.isSome then { o with pending := [] } else o }

def flushAll : Work Unit := do
  flushMain
  flushFiles

/-- What a shell makes of a status of a command. -/
def seenStatus (n : Nat) : Nat := if 128 < n && n ≤ 192 then 256 + (n - 128) else n

/-- The command of a pipe. -/
def pipeCommand (e : Engine) (command : String) : Act Nat := do
  asProgram (e.program (.system "sh") "/bin/sh" ["-c", command] (Tool.surroundings (← get))) false
  pure (← get).status

/-- Ends an output. -/
def finishOutlet (e : Engine) (o : Outlet) : Work Nat := do
  let bytes := bytesOf o.pending.reverse.flatten
  match o.stream with
  | some stream => do
    act (writeTo stream bytes)
    pure 0
  | none =>
    act do
      withInput bytes (do setStatus (← pipeCommand e o.name))
      pure (seenStatus (← get).status)

/-- Closes all that was opened by a name; the answer is the status, if there was anything. -/
def closeNamed (e : Engine) (name : String) : Work (Option Nat) := do
  let m ← get
  let own := m.outlets.filter fun o => o.name = name
  let read := m.inlets.filter fun i => i.name = name
  set { m with outlets := m.outlets.filter fun o => o.name ≠ name, inlets := m.inlets.filter fun i => i.name ≠ name }
  let mut status := none
  for i in read do
    status := some (seenStatus i.status)
  for o in own do
    status := some (← finishOutlet e o)
  pure status

/-- Ends all outputs: commands first, and then all that waits. -/
def closeAll (e : Engine) : Work Unit := do
  let m ← get
  set { m with outlets := m.outlets.filter fun o => !o.isCommand }
  for o in m.outlets do
    if o.isCommand then
      let _ ← finishOutlet e o
  flushAll

/-! ### Faults -/

/-- Ends the script with a message. -/
def stopWith (text : String) : Work α := do
  act (Tool.remark text)
  modify fun m => { m with status := 2 }
  throw .stopped

/-- Ends the script with a message that tells how far it has come. -/
def stopAt (text : String) : Work α := do
  let file ← specialText "FILENAME"
  let inFile ← specialText "FNR"
  let all ← specialText "NR"
  stopWith ("run time error: " ++ text ++ "\n\tFILENAME=\"" ++ file ++ "\" FNR=" ++ inFile ++ " NR=" ++ all)

/-- The expression that a text is. -/
def compiled (text : String) : Work Regex := do
  match (← get).patterns.get? text with
  | some r => pure r
  | none =>
    match Search.read text.toList with
    | .ok r => do
      modify fun m => { m with patterns := m.patterns.insert text r }
      pure r
    | .error f => stopAt ("regular expression compile failed (" ++ f.message ++ ")\n" ++ text)

/-- An output that is opened unless it is there already. -/
def outlet (isCommand append : Bool) (name : String) : Work Unit := do
  let m ← get
  if !(m.outlets.any fun o => o.isCommand = isCommand && o.name = name) then
    let add (stream : Option Stream) : Work Unit :=
      modify fun m => { m with outlets := m.outlets ++ [{ isCommand, name, stream }] }
    if isCommand then do
      flushMain
      add none
    else match ← act (openOutput append false name) with
      | .ok stream => add (some stream)
      | .error r => stopWith ("cannot open \"" ++ name ++ "\" for output (" ++ r.text ++ ")")

def emitTo (isCommand append : Bool) (name : String) (cs : List Char) : Work Unit := do
  if !isCommand && (name = "/dev/stdout" || name = "-") then emit cs
  else if !isCommand && name = "/dev/stderr" then act (write 2 (bytesOf cs))
  else do
    outlet isCommand append name
    modify fun m =>
      { m with
        outlets := m.outlets.map fun o =>
          if o.isCommand = isCommand && o.name = name then { o with pending := cs :: o.pending } else o }

/-! ### Fields -/

/-- The parts of a text between single characters that pass a test. -/
def splitWhere (test : Char → Bool) (cs : List Char) : List String :=
  let (last, parts) := cs.foldr (fun c (acc : List Char × List String) =>
    if test c then ([], String.ofList acc.1 :: acc.2) else (c :: acc.1, acc.2)) ([], [])
  String.ofList last :: parts

/-- The fields of a text. `folded` tells whether newlines stand between fields, too. -/
def cutFields (mark : String) (folded : Bool) (text : String) : Work (List String) := do
  if text = "" then pure []
  else
    let cs := text.toList
    match mark.toList with
    | [' '] => pure ((splitWhere (fun c => c = ' ' || c = '\t' || c = '\n') cs).filter (· ≠ ""))
    | [] => pure (cs.map String.singleton)
    | [m] => pure (splitWhere (fun c => c = m || (folded && c = '\n')) cs)
    | _ => do
      let r ← compiled mark
      pure (Search.split (if folded then .either r (.char '\n') else r) text)

def setRecord (text : String) : Work Unit := do
  let mark ← specialText "FS"
  let folded := (← specialText "RS") = ""
  let parts ← cutFields mark folded text
  modify fun m => { m with record := text, fields := (parts.map Value.given).toArray }

/-- Puts the record together from its fields. -/
def joinFields : Work Unit := do
  let gap ← specialText "OFS"
  let texts ← (← get).fields.toList.mapM textOf
  modify fun m => { m with record := Text.joinWith gap texts }

def resizeFields (n : Nat) : Work Unit := do
  modify fun m =>
    { m with fields := m.fields.extract 0 n ++ Array.replicate (n - m.fields.size) (Value.given "") }

def getField (n : Nat) : Work Value := do
  let m ← get
  pure (if n = 0 then .given m.record else (m.fields[n - 1]?).getD (.given ""))

def setField (n : Nat) (v : Value) : Work Unit := do
  if n = 0 then setRecord (← textOf v)
  else do
    if (← get).fields.size < n then resizeFields n
    modify fun m => { m with fields := m.fields.setIfInBounds (n - 1) v }
    joinFields

/-- The number of a field. -/
def fieldNumber (v : Value) : Work Nat := do
  match Number.whole? v.toNumber with
  | some n => if n < 0 then stopAt ("negative field index $" ++ toString n) else pure n.toNat
  | none => pure 0

def setFieldCount (v : Value) : Work Unit := do
  match Number.whole? v.toNumber with
  | some n =>
    if n < 0 then stopAt "negative value assigned to NF"
    else do
      resizeFields n.toNat
      joinFields
  | none => pure ()

def getVariable (name : String) : Work Value := do
  match ← cell? name with
  | some (.scalar v) => pure v
  | some _ => pure .blank
  | none => do if name = "NF" then pure (.ofNat (← get).fields.size) else pure .blank

def storeVariable (name : String) (v : Value) : Work Unit := do
  if name = "NF" && ((← get).locals.lookup name).isNone then setFieldCount v else putCell name (.scalar v)

/-! ### Records -/

/-- The first place from one on with a character that passes a test. -/
def placeOf? (test : Char → Bool) (text : Array Char) : Nat → Nat → Option Nat
  | 0, _ => none
  | fuel + 1, i =>
    match text[i]? with
    | some c => if test c then some i else placeOf? test text fuel (i + 1)
    | none => none

def Feed.part (f : Feed) (start stop : Nat) : String := String.ofList (f.text.extract start stop).toList

/-- The end of a paragraph: where its text ends, and where the next one starts. -/
def paragraphEnd (text : Array Char) : Nat → Nat → Nat × Nat
  | 0, i => (i, i)
  | fuel + 1, i =>
    match text[i]? with
    | none => (i, i)
    | some c =>
      if c = '\n' && (text[i + 1]?).all (· = '\n') then
        (i, (placeOf? (· ≠ '\n') text (text.size + 1) i).getD text.size)
      else paragraphEnd text fuel (i + 1)

/-- The next record of a text, and what is left of it. -/
def Feed.next? (f : Feed) (mark : List Char) (regex : Option Regex) : Option (String × Feed) :=
  let size := f.text.size
  let upTo (stop after : Nat) : Option (String × Feed) := some (f.part f.place stop, { f with place := after })
  if size ≤ f.place then none
  else match mark with
    | [] =>
      match placeOf? (· ≠ '\n') f.text (size + 1) f.place with
      | none => none
      | some start =>
        let (stop, after) := paragraphEnd f.text (size + 1) start
        some (f.part start stop, { f with place := after })
    | [c] =>
      match placeOf? (· = c) f.text (size + 1) f.place with
      | some i => upTo i (i + 1)
      | none => upTo size size
    | _ =>
      match regex.bind fun r => Search.findFilled? r f.text (size + 1) f.place with
      | some (a, b) => upTo a b
      | none => upTo size size

/-- The next record of a text as the variables ask for. -/
def nextIn (f : Feed) : Work (Option (String × Feed)) := do
  let mark ← specialText "RS"
  let regex ← if mark.length ≤ 1 then pure none else some <$> compiled mark
  pure (f.next? mark.toList regex)

def feedOf (bytes : List UInt8) : Feed := { text := (Encoding.decode .ascii bytes).toArray }

/-- A variable and the text that an argument gives to it. -/
def assignmentIn? (argument : String) : Option (String × String) :=
  match Text.cutAt? '=' argument.toList with
  | some (name, text) =>
    let isName := name.head?.any (fun c => Text.isAsciiLetter c || c = '_') && name.all Text.isNameChar
    if isName then some (String.ofList name, unescapedText text) else none
  | none => none

/-- Goes on to the next file among the arguments; tells whether there is one. -/
def openNext : Nat → Work Bool
  | 0 => pure false
  | fuel + 1 => do
    let m ← get
    let openText (name : String) (bytes : List UInt8) : Work Bool := do
      setSpecial "FILENAME" (.given name)
      setSpecial "FNR" (.number 0)
      modify fun m => { m with feed := some (feedOf bytes), named := true }
      pure true
    let count := (Number.whole? (← special "ARGC").toNumber).getD 0
    if count ≤ m.argument then
      if m.named then pure false else openText "-" (← act takeInput)
    else do
      let n ← arrayOf "ARGV"
      set { m with argument := m.argument + 1 }
      let t ← table n
      let key := Key.number m.argument
      let name ← if t.contains key then textOf (t.find key).1 else pure ""
      if name = "" then openNext fuel
      else match assignmentIn? name with
        | some (own, text) => do
          storeVariable own (.given text)
          openNext fuel
        | none =>
          if name = "-" then openText "-" (← act takeInput)
          else match ← act (readFile name) with
            | .ok bytes => openText name bytes
            | .error .isDirectory => stopWith "read error (Is a directory)"
            | .error r => stopWith ("cannot open \"" ++ name ++ "\" (" ++ r.text ++ ")")

/-- Counts a record. -/
def countRecord (inFile : Bool) : Work Unit := do
  let up (name : String) : Work Unit := do setSpecial name (.number ((← special name).toNumber + 1))
  up "NR"
  if inFile then up "FNR"

/-- The next record of the input. -/
def nextRecord : Nat → Work (Option String)
  | 0 => pure none
  | fuel + 1 => do
    match (← get).feed with
    | some f => do
      match ← nextIn f with
      | some (text, f) => do
        modify fun m => { m with feed := some f }
        countRecord true
        pure (some text)
      | none => do
        modify fun m => { m with feed := none }
        nextRecord fuel
    | none => do
      let count := (Number.whole? (← special "ARGC").toNumber).getD 0
      if ← openNext (count.toNat + 2) then nextRecord fuel else pure none

/-- How many files may be gone through. -/
def fileLimit : Nat := 100000

/-- The next record of a file or of what a command writes; nothing at all if it cannot be read. -/
def nextOf (e : Engine) (isCommand : Bool) (name : String) : Work (Option (Option String)) := do
  let own (i : Inlet) : Bool := i.isCommand = isCommand && i.name = name
  let start : Work (Option Inlet) := do
    if isCommand then do
      flushAll
      let (bytes, status) ← act do
        let bytes ← collecting e none do setStatus (← pipeCommand e name)
        pure (bytes, (← get).status)
      pure (some { isCommand, name, feed := feedOf bytes, status })
    else if name = "-" || name = "/dev/stdin" then pure (some { isCommand, name, feed := feedOf (← act takeInput) })
    else match ← act (readFile name) with
      | .ok bytes => pure (some { isCommand, name, feed := feedOf bytes })
      | .error _ => pure none
  let i? ← match (← get).inlets.find? own with
    | some i => pure (some i)
    | none => start
  match i? with
  | none => pure none
  | some i => do
    let answer ← nextIn i.feed
    let feed := match answer with
      | some (_, f) => f
      | none => i.feed
    modify fun m => { m with inlets := { i with feed } :: m.inlets.filter fun j => !own j }
    pure (some (answer.map Prod.fst))

end Records
end LintRun.Shell
