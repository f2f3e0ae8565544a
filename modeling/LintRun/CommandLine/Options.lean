import LintRun.Decimal.Numeral
import LintRun.Files.Path

/-!
# CommandLine — Options

The words of a command line as options and arguments. Options may stand anywhere before a word of two hyphens;
short ones may share a word, and the value of an option may be joined to it.

* `scan`: the options in the order given, and the arguments.
* `Options.ofWords`: what the options say; of an option given twice the last one counts.
-/

namespace LintRun.CommandLine

inductive OptionName
  | config
  | tag
  | productsDir
  | version
  | jobs
  | timeout
  | failFast
  | keepGoing
  | summary
  | verbose
  deriving DecidableEq, Repr

namespace OptionName

/-- Whether an option is followed by a value. -/
def takesValue : OptionName → Bool
  | .failFast | .keepGoing | .verbose => false
  | _ => true

def long : List (String × OptionName) :=
  [("--config", .config), ("--tag", .tag), ("--products-dir", .productsDir), ("--clang-version", .version),
    ("--jobs", .jobs), ("--timeout", .timeout), ("--fail-fast", .failFast), ("--keep-going", .keepGoing),
    ("--summary", .summary), ("--verbose", .verbose)]

def short : List (Char × OptionName) := [('c', .config), ('j', .jobs), ('v', .verbose)]

end OptionName

/-- Why a command line is refused. -/
inductive OptionFault
  | unknown (name : String)
  | valueMissing (name : String)
  | valueUnwanted (name : String)
  | badValue (name : OptionName) (value : String)
  deriving DecidableEq, Repr

/-- What the words of a command line turn out to be: options with their values, and arguments. -/
structure Scan where
  options : List (OptionName × String) := []
  arguments : List String := []
  deriving DecidableEq, Repr

def Scan.option (name : OptionName) (value : String) (s : Scan) : Scan :=
  { s with options := (name, value) :: s.options }

def Scan.argument (word : String) (s : Scan) : Scan := { s with arguments := word :: s.arguments }

/-- The options in one word of short ones. The last of them may need the next word for its value. -/
inductive Cluster
  | complete (options : List (OptionName × String))
  | awaiting (options : List (OptionName × String)) (last : OptionName) (letter : Char)
  deriving DecidableEq, Repr

def Cluster.cons (o : OptionName × String) : Cluster → Cluster
  | .complete os => .complete (o :: os)
  | .awaiting os last letter => .awaiting (o :: os) last letter

/-- Short options: the letters behind a hyphen. An option with a value takes the rest of the word for it. -/
def cluster : List Char → Except OptionFault Cluster
  | [] => .ok (.complete [])
  | c :: rest =>
    match OptionName.short.lookup c with
    | none => .error (.unknown (String.ofList ['-', c]))
    | some name =>
      if name.takesValue then
        .ok (if rest.isEmpty then .awaiting [] name c else .complete [(name, String.ofList rest)])
      else (cluster rest).map (Cluster.cons (name, ""))

/-- A long option and the value joined to it by an equals sign. -/
def splitLong (word : String) : String × Option String :=
  match Text.cutAt? '=' word.toList with
  | some (name, value) => (String.ofList name, some (String.ofList value))
  | none => (word, none)

/-- Whether a word holds options: a hyphen and something behind it. -/
def isOptionWord (word : String) : Bool :=
  match word.toList with
  | '-' :: _ :: _ => true
  | _ => false

def isLongWord (word : String) : Bool :=
  match word.toList with
  | '-' :: '-' :: _ => true
  | _ => false

/-- What a word with options asks for: nothing more, or the next word as the value of an option. -/
inductive Asked
  | nothing (options : List (OptionName × String))
  | value (options : List (OptionName × String)) (name : OptionName) (written : String)
  deriving DecidableEq, Repr

/-- The options of one word. -/
def readWord (word : String) : Except OptionFault Asked :=
  let (name, value) := splitLong word
  match OptionName.long.lookup name with
  | some option =>
    match option.takesValue, value with
    | true, some v => .ok (.nothing [(option, v)])
    | true, none => .ok (.value [] option name)
    | false, some _ => .error (.valueUnwanted name)
    | false, none => .ok (.nothing [(option, "")])
  | none =>
    if isLongWord word then .error (.unknown name)
    else
      match cluster (word.toList.drop 1) with
      | .error f => .error f
      | .ok (.complete os) => .ok (.nothing os)
      | .ok (.awaiting os last letter) => .ok (.value os last (String.ofList ['-', letter]))

def Scan.withOptions (os : List (OptionName × String)) (s : Scan) : Scan := { s with options := os ++ s.options }

/-- The options and arguments of a command line, in the order given. -/
def scan : List String → Except OptionFault Scan
  | [] => .ok {}
  | word :: rest =>
    if word = "--" then .ok { arguments := rest }
    else if !isOptionWord word then (scan rest).map (Scan.argument word)
    else
      match readWord word with
      | .error f => .error f
      | .ok (.nothing os) => (scan rest).map (Scan.withOptions os)
      | .ok (.value os name written) =>
        match rest with
        | [] => .error (.valueMissing written)
        | value :: rest => (scan rest).map fun s => (s.option name value).withOptions os

/-! ### Meanings -/

structure Options where
  config : Option String := none
  tag : String := "default"
  productsDir : Option Path := none
  version : Option String := none
  jobs : Option Int := none
  timeout : Option Binary64 := none
  failFast : Option Bool := none
  summary : Option Path := none
  verbose : Bool := false
  arguments : List String := []
  deriving DecidableEq, Repr

/-- An integer as a person may type it. -/
def integer? (text : String) : Option Int :=
  match Text.integerDigits? 10 text.toList with
  | some (negative, digits) =>
    if Text.digitLimit < digits.length then none
    else
      let n : Int := Text.numberOf 10 digits
      some (if negative then -n else n)
  | none => none

/-- A number with a fraction as a person may type it, in plain characters only. -/
def decimal? (text : String) : Option Binary64 :=
  if text.toList.all fun c => c.toNat < 128 then Binary64.ofNumeral? text.toList else none

/-- A path as a person may type it: no file has a null character in its name. -/
def path? (name : OptionName) (text : String) : Except OptionFault Path :=
  if text.toList.contains '\x00' then .error (.badValue name text) else .ok (.ofString text)

/-- What one more option says. -/
def Options.set (o : Options) (name : OptionName) (value : String) : Except OptionFault Options :=
  match name with
  | .config => .ok { o with config := some value }
  | .tag => .ok { o with tag := value }
  | .productsDir => (path? name value).map fun p => { o with productsDir := some p }
  | .version => .ok { o with version := some value }
  | .jobs =>
    match integer? value with
    | some n => .ok { o with jobs := some n }
    | none => .error (.badValue .jobs value)
  | .timeout =>
    match decimal? value with
    | some x => .ok { o with timeout := some x }
    | none => .error (.badValue .timeout value)
  | .failFast => .ok { o with failFast := some true }
  | .keepGoing => .ok { o with failFast := some false }
  | .summary => (path? name value).map fun p => { o with summary := some p }
  | .verbose => .ok { o with verbose := true }

/-- Whether two options decide the same thing. -/
def sameMatter (a b : OptionName) : Bool :=
  a = b || ([a, b].all fun x => x = .failFast || x = .keepGoing)

/-- The options that no later one replaces. -/
def lastOnes : List (OptionName × String) → List (OptionName × String)
  | [] => []
  | o :: rest => if rest.any fun p => sameMatter o.1 p.1 then lastOnes rest else o :: lastOnes rest

/-- What a command line says. -/
def Options.ofWords (words : List String) : Except OptionFault Options := do
  let s ← scan words
  (lastOnes s.options).foldlM (fun o (name, value) => o.set name value) { arguments := s.arguments }

end LintRun.CommandLine
