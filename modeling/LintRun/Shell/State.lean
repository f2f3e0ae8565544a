import LintRun.Files.Tree
import LintRun.Shell.Command
import LintRun.Shell.Place
import LintRun.Shell.Variable
import LintRun.Toolchain.Environment

/-!
# Shell — State

What a running shell knows and what it has done so far.

* `State`: variables, functions, options, where output goes, and everything that was written.
* `Act`: a step of a shell; it may leave the commands around it early (`Flow`).
* `Engine`: what steps need that run commands in turn.
* `write`, `complain`: output, and messages in the wording of the dialect.
* `isolated`, `inSubshell`: a step whose changes are forgotten.
* `finishing`: a step with the command after it that was set up for the end.
-/

namespace LintRun.Shell

/-- Where output goes or where input comes from. -/
inductive Stream
  | output
  | errors
  /-- A device that takes nothing in. -/
  | full
  /-- What another command takes in; commands within commands have their own. -/
  | pipe (level : Nat)
  | file (path : Path)
  | nowhere
  /-- A text that is read from its front, by everyone who has it. -/
  | source (number : Nat)
  deriving DecidableEq, Repr

/-- Something that was written: when, where, and what. -/
structure Record where
  time : Nat
  stream : Stream
  bytes : List UInt8

/-- Why commands are left before their end. -/
inductive Flow
  | broken (levels : Nat)
  | continued (levels : Nat)
  | returned
  /-- A fault spoils all that was read together with the command. -/
  | spoiled
  | exited
  | killed (signal : Nat)
  /-- The time that was given is over. -/
  | stalled
  deriving DecidableEq, Repr

/-- A function, and the file and line that its text stands in. -/
structure Function where
  body : Command
  source : String
  line : Nat
  exported : Bool := false

/-- What is run in a frame: a function, a file that is read in, or the script itself. -/
inductive FrameKind
  | function
  | file
  | script
  deriving DecidableEq, Repr

/-- A function or a file that is being run: its name, the file with its text, and the line that called it. -/
structure Frame where
  name : String
  source : String
  line : Nat
  kind : FrameKind
  deriving DecidableEq, Repr

/-- Commands in the background: their number, when they end, and how they have ended. -/
structure Job where
  number : Nat
  ends : Nat
  status : Nat
  /-- The signal that has ended it, if one has. -/
  signal : Option Nat := none
  /-- How a list of jobs shows it. -/
  shown : String := ""
  deriving DecidableEq, Repr

/-- What is being run: a command, or the head of a compound one. -/
inductive Running
  | command (c : Command)
  | head (text : String)

structure State where
  dialect : Dialect
  charset : Charset := .ascii
  /-- The name that the shell was called by. -/
  name : String
  /-- What messages name beside the shell: the file that the current command stands in, or the command that reads
  it; empty for the script itself. -/
  source : String := ""
  line : Nat := 1
  bindings : List (String × Variable) := []
  functions : List (String × Function) := []
  arguments : List String := []
  status : Nat := 0
  /-- How the stages of the last pipeline have ended. -/
  stages : List Nat := []
  /-- The options that are on, by their long names, and the further ones of one dialect. -/
  options : List String := []
  extras : List String := []
  /-- How the script was given: as an argument, or as the input. -/
  given : List Char := []
  aliases : List (String × String) := []
  /-- Built-in commands that are off. -/
  disabled : List String := []
  /-- The permissions that new files do not get. -/
  mask : Nat := 18
  /-- The directories that one may go back to. -/
  directories : List String := []
  /-- The status of the current command decides about another one. -/
  tested : Bool := false
  /-- The commands that are set up for signals; the signal 0 is the end of the shell. -/
  traps : List (String × String) := []
  /-- The signals that have come and whose commands have yet to be run. -/
  pending : List String := []
  /-- The signals that shells within have sent to the outermost one. -/
  sent : List Nat := []
  /-- The signals whose commands are being run. -/
  answering : List String := []
  /-- The status before them. -/
  earlier : Nat := 0
  running : Running := .head ""
  /-- What stands in front of traces, if it is not the text that was given for it. -/
  mark : Option String := none
  /-- Failures do not end the shell here. -/
  sheltered : Bool := false
  /-- Up to when commands have run that may still have written something. -/
  held : Nat := 0
  /-- How many texts are read within texts. -/
  nesting : Nat := 0
  /-- How many shells are around this one. -/
  subshells : Nat := 0
  /-- A command in a word of the current command has been run. -/
  substituted : Bool := false
  /-- Commands that read what the current command writes, by their descriptor. -/
  feeds : List (Nat × List Command) := []
  /-- The functions and files that are being run, the innermost one first. -/
  frames : List Frame := []
  loops : Nat := 0
  /-- The variables of each running function that get their old state back. -/
  hidden : List (List (String × Option Variable)) := []
  /-- The variables that hold for the current command alone. -/
  lent : List String := []
  /-- The last argument of the last command. -/
  lastArgument : String := ""
  /-- The name of the command that messages about expressions start with. -/
  speaker : String := ""
  /-- The argument that is read as options next, and how far its letters have been read. -/
  optionPlace : Option (Nat × Nat) := none
  descriptors : List (Nat × Stream) := [(0, .source 0), (1, .output), (2, .errors)]
  /-- The texts that are read, each with what is left of it. -/
  sources : List (Nat × List UInt8) := []
  /-- The texts that stand in files, in which one can go back; each with its length. -/
  regular : List (Nat × Nat) := []
  /-- What was written, the newest first. -/
  written : List Record := []
  /-- Why something could not be written. -/
  lost : Option String := none
  /-- How many more bytes the next stage of a pipeline takes in. -/
  room : Option Nat := none
  level : Nat := 0
  /-- Time in microseconds, and how much of it there is. -/
  elapsed : Nat := 0
  limit : Option Nat := none
  jobs : List Job := []
  /-- The number of the last commands that were put into the background. -/
  lastJob : Option Nat := none
  /-- When the last command in the background ends that may still write. -/
  busy : Nat := 0
  tree : FileTree

abbrev Act (α : Type) := ExceptT Flow (StateM State) α

/-- A program that can be started. -/
inductive Program
  /-- One of the system's programs. -/
  | system (name : String)
  /-- A file with a text that an interpreter reads. -/
  | script (path : String) (content : List UInt8)
  deriving DecidableEq, Repr

/-- What steps need that run commands in turn. -/
structure Engine where
  /-- A bound on the rounds of a loop. -/
  rounds : Nat
  /-- Runs commands. -/
  commands : List Command → Act Unit
  /-- Reads a text line by line from a line on, and runs it; messages about its form say what it is. -/
  text : String → Nat → List Char → Act Unit
  /-- Runs the command of a name with arguments; functions may be passed over. -/
  invoke : Bool → List String → Act Unit
  /-- Runs a program, called by a name with arguments, in an environment. -/
  program : Program → String → List String → Environment → Act Unit

/-- The number by which a shell knows itself. -/
def ownNumber : Nat := 4096

def State.has (s : State) (option : String) : Bool := s.options.contains option || s.extras.contains option

def State.isBash (s : State) : Bool := s.dialect = .bash

/-- How the texts of a shell are read. -/
def State.manner (s : State) : Manner :=
  { dialect := s.dialect, charset := s.charset, extended := s.has "extglob"
    aliases := if s.dialect = .posix || s.has "expand_aliases" then s.aliases else [] }

/-- A path as the tree of files knows it. -/
def pathOf (text : String) : Path := Path.ofString (Encoding.visible text)

/-! ### Variables -/

def lookVariable (s : State) (name : String) : Option Variable := s.bindings.lookup name

def value? (s : State) (name : String) : Option String := (lookVariable s name).bind Variable.value?

def setVariable (name : String) (v : Variable) : Act Unit :=
  modify fun s => { s with bindings := putVariable name v s.bindings }

/-- The working directory as text. -/
def directoryText (t : FileTree) : String := "/" ++ Text.joinWith "/" t.home

/-- The character set that an environment asks for. -/
def charsetOf (look : String → Option String) : Charset :=
  let locale := ["LC_ALL", "LC_CTYPE", "LANG"].findSome? fun n => (look n).filter (· ≠ "")
  if ["C.UTF-8", "C.utf8", "POSIX.UTF-8"].contains (locale.getD "") then .utf8 else .ascii

/-! ### Output -/

/-- Where a descriptor leads. -/
def streamOf (s : State) (descriptor : Nat) : Option Stream := s.descriptors.lookup descriptor

/-- Adds bytes to a file. -/
def appendFile (t : FileTree) (path : Path) (bytes : List UInt8) : FileTree :=
  match t.node? path with
  | .ok (.file content executable) => ((t.write path (content ++ bytes) executable).toOption).getD t
  | _ => t

def writeTo (stream : Stream) (bytes : List UInt8) : Act Unit := do
  let s ← get
  match stream with
  | .nowhere | .source _ => pure ()
  | .full => if !bytes.isEmpty then set { s with lost := some "No space left on device" }
  | .file path => set { s with tree := appendFile s.tree path bytes }
  | _ =>
    if !bytes.isEmpty then
      let own : Bool := match stream with
        | .pipe _ => true
        | _ => false
      let room := if own then s.room.map (· - bytes.length) else s.room
      set { s with written := ⟨s.elapsed, stream, bytes⟩ :: s.written, room }
      -- nobody reads on
      if own && room = some 0 then throw (.killed 13)

def write (descriptor : Nat) (bytes : List UInt8) : Act Unit := do
  match streamOf (← get) descriptor with
  | some stream => writeTo stream bytes
  | none =>
    if !bytes.isEmpty && descriptor ≠ 2 then modify fun s => { s with lost := some "Bad file descriptor" }

def put (descriptor : Nat) (text : String) : Act Unit := write descriptor (bytesOf text.toList)

def say (descriptor : Nat) (text : String) : Act Unit := write descriptor (bytesOf (text ++ "\n").toList)

/-- Who speaks in the messages of the shell. -/
def speaker (s : State) : String := if s.isBash && s.source ≠ "" then s.source else s.name

/-- What a message of the shell starts with: who speaks, and about which line. -/
def messageHead (s : State) : String :=
  match s.dialect with
  | .bash => speaker s ++ ": line " ++ toString s.line ++ ": "
  | .posix => s.name ++ ": " ++ toString s.line ++ ": " ++ if s.source = "" then "" else s.source ++ ": "

def complain (text : String) : Act Unit := do say 2 (messageHead (← get) ++ text)

/-- The bytes that went to the streams of a kind, in order of time. -/
def collected (test : Stream → Bool) (written : List Record) : List UInt8 :=
  let own := (written.filter fun r => test r.stream).reverse
  ((own.mergeSort fun a b => a.time ≤ b.time).map Record.bytes).flatten

/-! ### Input -/

/-- What is left of the input behind a descriptor. -/
def inputOf (s : State) (descriptor : Nat) : List UInt8 :=
  match streamOf s descriptor with
  | some (.source n) => (s.sources.lookup n).getD []
  | some (.file path) =>
    match s.tree.node? path with
    | .ok (.file content _) => content
    | _ => []
  | _ => []

/-- Leaves so much of the input behind a descriptor. -/
def leaveInput (descriptor : Nat) (rest : List UInt8) : Act Unit :=
  modify fun s =>
    match streamOf s descriptor with
    | some (.source n) => { s with sources := (n, rest) :: s.sources.filter (·.1 ≠ n) }
    | _ => s

/-- All that is left of the input. -/
def takeInput : Act (List UInt8) := do
  let bytes := inputOf (← get) 0
  leaveInput 0 []
  pure bytes

/-- A text as a source of its own. -/
def newSource (bytes : List UInt8) : Act Stream := do
  let s ← get
  let n := s.sources.foldl (fun m (k, _) => max m (k + 1)) 1
  set { s with sources := (n, bytes) :: s.sources }
  pure (.source n)

/-- Has a descriptor lead elsewhere. -/
def redirect (descriptor : Nat) (stream : Stream) : Act Unit :=
  modify fun s => { s with descriptors := (descriptor, stream) :: s.descriptors.filter (·.1 ≠ descriptor) }

/-- Closes a descriptor. -/
def closeDescriptor (descriptor : Nat) : Act Unit :=
  modify fun s => { s with descriptors := s.descriptors.filter (·.1 ≠ descriptor) }

/-- A step that reads a text of its own. -/
def withInput (bytes : List UInt8) (act : Act Unit) : Act Unit := do
  let before := (← get).descriptors
  redirect 0 (← newSource bytes)
  act
  modify fun s => { s with descriptors := before }

/-! ### Control -/

def setStatus (n : Nat) : Act Unit := modify fun s => { s with status := n }

/-- Ends the shell with a status. -/
def exit (n : Nat) : Act α := do
  setStatus n
  throw .exited

/-- Lets time pass. -/
def spend (microseconds : Nat) : Act Unit := do
  modify fun s =>
    let now := s.elapsed + microseconds
    let mayWrite := s.descriptors.any fun (_, stream) => match stream with
      | .output | .errors | .pipe _ => true
      | _ => false
    { s with elapsed := now, held := if mayWrite then now else s.held }
  let s ← get
  if s.limit.any fun l => decide (l ≤ s.elapsed) then throw .stalled

/-- Waits until a time has come. -/
def waitUntil (time : Nat) : Act Unit := do spend (time - (← get).elapsed)

/-- Runs a step and tells how it ended. -/
def outcome (act : Act Unit) : Act (Option Flow) := do
  try
    act
    pure none
  catch flow => pure (some flow)

/-- A step with something done after it, unless it ends the shell. -/
def thenAlways (act : Act Unit) (after : Act Unit) : Act Unit := do
  let flow ← outcome act
  if flow ≠ some .exited then after
  if let some f := flow then throw f

/-- A step whose failure has no consequences of its own. -/
def whileTested (act : Act Unit) : Act Unit := do
  let before := (← get).tested
  modify fun s => { s with tested := true }
  thenAlways act (modify fun s => { s with tested := before })

/-- Ends the shell after a fault in a command. -/
def abort (text : String) : Act α := do
  complain text
  let s ← get
  exit (match s.dialect with
    | .bash => if s.has "errexit" || 0 < s.subshells then 1 else 127
    | .posix => 2)

/-- A fault after which one dialect goes on with the next line, while the other ends. -/
def spoil (text : String) : Act α := do
  complain text
  match (← get).dialect with
  | .bash =>
    setStatus 1
    throw .spoiled
  | .posix => exit 2

/-- What stays of a state that is left: what was written, the files, the time, the rest of the input. -/
def keepTraces (before after : State) : State :=
  { before with
    written := after.written, elapsed := after.elapsed, tree := { after.tree with home := before.tree.home }
    sources := after.sources, regular := after.regular, status := after.status, busy := after.busy, room := after.room
    held := after.held, jobs := before.jobs, sent := after.sent }

/-- A step whose changes are forgotten. A signal that the shell sends to itself goes through. -/
def isolated (act : Act Unit) : Act Unit := do
  let before ← get
  let flow ← outcome act
  modify (keepTraces before)
  match flow with
  | some (.killed signal) => throw (.killed signal)
  | some .stalled => throw .stalled
  | some .spoiled => setStatus 1
  | _ => pure ()

/-- A step with the command after it that was set up for the end. -/
def finishing (e : Engine) (act : Act Unit) : Act Unit := do
  let flow ← outcome act
  let isBash := (← get).isBash
  let leaves := match flow with
    | some (.killed n) => isBash && n ≠ 9 && n ≠ 11
    | some .stalled => false
    | _ => true
  if flow = some .spoiled then setStatus 1
  let s ← get
  match s.traps.lookup "EXIT" with
  | some text =>
    if leaves && text ≠ "" then
      set
        { s with
          traps := s.traps.filter (fun (n, _) => n ≠ "EXIT"), tested := false, loops := 0
          answering := ["EXIT"], earlier := s.status }
      match ← outcome (e.text "exit trap" 1 text.toList) with
      | some (.killed n) => throw (.killed n)
      | some .stalled => throw .stalled
      | some .exited => pure ()
      | _ => setStatus s.status
  | none => pure ()
  if let some f := flow then throw f

/-- A step in a shell of its own. -/
def inSubshell (e : Engine) (act : Act Unit) : Act Unit :=
  isolated do
    modify fun s =>
      let stays (name : String) : Bool :=
        (name = "ERR" && s.has "errtrace") || ((name = "DEBUG" || name = "RETURN") && s.has "functrace")
      { s with
        subshells := s.subshells + 1, loops := 0
        traps := s.traps.filter fun (name, text) => text = "" || stays name }
    finishing e act

/-- The bytes that a step in a shell of its own writes to its standard output; it may be given little room. -/
def collecting (e : Engine) (room : Option Nat) (act : Act Unit) : Act (List UInt8) := do
  let before ← get
  let own := Stream.pipe before.level
  modify fun s =>
    { s with
      level := s.level + 1, written := [], busy := 0, room
      descriptors := (1, own) :: s.descriptors.filter (·.1 ≠ 1) }
  let flow ← outcome do
    inSubshell e act
    waitUntil (← get).busy
  let after ← get
  let others := after.written.filter fun r => r.stream ≠ own
  set
    { keepTraces before after with
      written := others ++ before.written, busy := before.busy, room := before.room }
  match flow with
  | some f => throw f
  | none => pure (collected (· = own) after.written)

/-- What commands within a word write. -/
def captured (e : Engine) (act : Act Unit) : Act (List UInt8) := do
  let bytes ← collecting e none do
    modify fun s => { s with nesting := s.nesting + 1 }
    act
  modify fun s => { s with substituted := true }
  pure bytes

end LintRun.Shell
