import LintRun.Shell.Layout
import LintRun.Shell.State

/-!
# Shell — Parameters

What the names in a script stand for, and giving them values.

* `resolve`: the variable that a name stands for, references followed.
* `binding?`: the variable of a name, also of those that a shell works out when they are asked for.
* `parameter`: the value of a parameter that has a single one.
* `store`: gives a variable a value, unless it is fixed.
-/

namespace LintRun.Shell

/-- The variable that a name stands for; so many references are followed. -/
def resolveWithin (s : State) : Nat → String → String
  | 0, name => name
  | fuel + 1, name =>
    match lookVariable s name with
    | some v =>
      match v.reference, v.value? with
      | true, some target => if isName target.toList then resolveWithin s fuel target else name
      | _, _ => name
    | none => name

def resolve (s : State) (name : String) : String := resolveWithin s 8 name

/-- The letters of the options that are on. -/
def optionLetters : List (String × Char) :=
  [("allexport", 'a'), ("notify", 'b'), ("errexit", 'e'), ("noglob", 'f'), ("hashall", 'h'), ("keyword", 'k'),
    ("monitor", 'm'), ("noexec", 'n'), ("privileged", 'p'), ("onecmd", 't'), ("nounset", 'u'), ("verbose", 'v'),
    ("xtrace", 'x'), ("braceexpand", 'B'), ("noclobber", 'C'), ("errtrace", 'E'), ("histexpand", 'H'),
    ("physical", 'P'), ("functrace", 'T')]

/-- The order in which one dialect lists its options, which differs from the other one's. -/
def plainOptionOrder : List Char := "efIimnsxvVECabu".toList

def optionText (s : State) : String :=
  let on := (optionLetters.filter fun (name, _) => s.options.contains name).map Prod.snd
  match s.dialect with
  | .bash => String.ofList (on ++ s.given)
  | .posix => String.ofList (plainOptionOrder.filter on.contains)

/-- The names of the functions that are being run; none if no function is. -/
def functionNames (s : State) : List String :=
  if s.frames.any fun f => f.kind = .function then s.frames.map Frame.name else []

/-- What is being run as text. -/
def Running.text : Running → String
  | .command c => Layout.inline [c]
  | .head t => t

/-- The variables that a shell works out when they are asked for. -/
def dynamic? (s : State) (name : String) : Option Variable :=
  let text (t : String) : Option Variable := some (.ofText t)
  match s.dialect with
  | .posix => none
  | .bash =>
    match name with
    | "LINENO" => text (toString s.line)
    | "SECONDS" => text (toString (s.elapsed / 1000000))
    | "RANDOM" => text (toString ((s.elapsed * 1103515245 + 12345) / 65536 % 32768))
    | "BASHPID" => text (toString (ownNumber + s.subshells))
    | "BASH_SUBSHELL" => text (toString s.subshells)
    | "PIPESTATUS" => some (.ofList (s.stages.map toString))
    | "BASH_SOURCE" => some (.ofList (s.frames.map Frame.source))
    | "BASH_LINENO" => some (.ofList (s.frames.map fun f => toString f.line))
    | "BASH_COMMAND" => text s.running.text
    | "FUNCNAME" =>
      let names := functionNames s
      if names.isEmpty then none else some (.ofList names)
    | "DIRSTACK" => some (.ofList (directoryText s.tree :: s.directories))
    | "SHELLOPTS" => text (Text.joinWith ":" (s.options.mergeSort fun a b => a ≤ b))
    | _ => none

/-- The variable of a name. -/
def binding? (s : State) (name : String) : Option Variable :=
  let name := resolve s name
  match dynamic? s name with
  | some v => some v
  | none => lookVariable s name

/-- The value of a parameter that has a single one. -/
def parameter (s : State) (name : String) : Option String :=
  match name with
  | "#" => some (toString s.arguments.length)
  | "?" => some (toString s.status)
  | "$" => some (toString ownNumber)
  | "-" => some (optionText s)
  | "!" => s.lastJob.map toString
  | "0" => some s.name
  | "_" => if s.isBash then some s.lastArgument else value? s "_"
  | "@" | "*" => if s.arguments.isEmpty then none else some (Text.joinWith " " s.arguments)
  | _ =>
    if name.toList.all Text.isAsciiDigit then s.arguments[Text.numberOf 10 name.toList - 1]?
    else (binding? s name).bind Variable.value?

/-- A text as a variable takes it. -/
def Variable.shaped (v : Variable) (text : String) : String :=
  match v.recasing, text.toList with
  | some .capital, c :: rest => String.ofList (c.toUpper :: rest.map Char.toLower)
  | some r, cs => String.ofList (cs.map (recased r))
  | none, _ => text

/-- What a shell says of a variable that is fixed. -/
def fixedText (s : State) (name : String) : String :=
  name ++ match s.dialect with
    | .bash => ": readonly variable"
    | .posix => ": is read only"

/-- Changes a variable that is not fixed. The answer tells whether it could be changed. -/
def change (name : String) (f : Variable → Variable) : Act Bool := do
  let s ← get
  let name := resolve s name
  let old := (lookVariable s name).getD {}
  if old.fixed then
    complain (fixedText s name)
    pure false
  else
    let new := f old
    setVariable name { new with exported := new.exported || s.has "allexport" }
    if s.dialect = .bash && (name = "LC_ALL" || name = "LC_CTYPE" || name = "LANG") then
      modify fun s => { s with charset := charsetOf (value? s) }
    pure true

/-- Gives a variable, or one of its elements, a value. -/
def store (name : String) (key : Option Key) (value : String) : Act Bool :=
  change name fun v =>
    let value := v.shaped value
    { v with
      content := match key with
        | none => v.content.putFirst value
        | some k => v.content.put k value }

/-- Gives a variable a value, or ends what is being run. -/
def assign (name : String) (value : String) : Act Unit := do
  if !(← store name none value) then
    match (← get).dialect with
    | .bash =>
      setStatus 1
      throw .spoiled
    | .posix => exit 2

/-- The separators of fields. -/
def separators (s : State) : List Char := ((value? s "IFS").getD " \t\n").toList

/-- What stands between arguments that are joined. -/
def joint (s : State) : String :=
  match value? s "IFS" with
  | none => " "
  | some v => match v.toList with
    | [] => ""
    | c :: _ => String.singleton c

/-- The rank of a name among those that programs get to see. -/
def exportRank (d : Dialect) (name : String) : Nat :=
  match d with
  | .bash => Content.bucket name
  | .posix =>
    let codes := name.toList.map Char.toNat
    (16 * codes.headD 0 + codes.foldl (· + ·) 0) % 39

/-- The variables that programs get to see; those of the command itself come first. -/
def exports (s : State) : Environment :=
  let all : Environment := s.bindings.filterMap fun (name, v) =>
    if v.exported then
      match v.content with
      | .text (some t) => some (name, t)
      | _ => none
    else none
  let sorted := all.mergeSort fun a b => exportRank s.dialect a.1 ≤ exportRank s.dialect b.1
  let own : Environment := if s.isBash then sorted.filter fun (n, _) => s.lent.contains n else []
  own ++ sorted.filter fun (n, _) => (own.lookup n).isNone

end LintRun.Shell
