import LintRun.Shell.Records.Machine

/-!
# Shell — The record processor: running scripts

What a script does with records.

* `eval`: the value of an expression.
* `exec`: what a statement does.
* `Tool.processRecords`: the record processor as a program.
-/

namespace LintRun.Shell
namespace Records

/-! ### Formats -/

/-- Why values cannot be put into a format. -/
inductive FormatFault
  | notEnough
  | improper (number : Nat)

/-- A text in a field of some width. -/
def padded (slot : Slot) (cs : List Char) : List Char :=
  let fill := List.replicate (slot.width.getD 0 - cs.length) ' '
  if slot.flags.contains '-' then cs ++ fill else fill ++ cs

/-- Values put into a format: the text, and what went wrong after it. `number` counts the slots. -/
def formatWithin (convert : String) : Nat → Nat → List Char → List Value → List (List Char) →
    List Char × Option FormatFault
  | 0, _, _, _, out => (out.reverse.flatten, none)
  | _ + 1, _, [], _, out => (out.reverse.flatten, none)
  | fuel + 1, number, '%' :: '%' :: rest, vs, out => formatWithin convert fuel number rest vs (['%'] :: out)
  | fuel + 1, number, '%' :: rest, vs, out =>
    let stop (f : FormatFault) : List Char × Option FormatFault := (out.reverse.flatten, some f)
    let (shape, after) := Number.readShape rest
    let measured (m : Number.Measure) (vs : List Value) : Option (Option Int × List Value) :=
      match m, vs with
      | .missing, vs => some (none, vs)
      | .given n, vs => some (some n, vs)
      | .argument, v :: vs => some (some (Number.clamped v.toNumber), vs)
      | .argument, [] => none
    match measured shape.width vs with
    | none => stop .notEnough
    | some (width, vs) =>
      match measured shape.precision vs with
      | none | some (_, []) => stop .notEnough
      | some (precision, v :: vs) =>
        let flags := if width.any (· < 0) then '-' :: shape.flags else shape.flags
        let slot : Slot :=
          { flags, width := width.map Int.natAbs, kind := shape.kind.getD ' '
            precision := precision.bind fun p => if p < 0 then none else some p.toNat }
        let go (cs : List Char) : List Char × Option FormatFault :=
          formatWithin convert fuel (number + 1) after vs (cs :: out)
        match slot.kind with
        | 's' =>
          let cs := (v.toText convert).toList
          go (padded slot (match slot.precision with
            | some p => cs.take p
            | none => cs))
        | 'c' =>
          let one : List Char := match v.number?, v with
            | _, .blank => ['\x00']
            | some x, _ => [Encoding.single (UInt8.ofNat ((Number.clamped x) % 256).toNat)]
            | none, v => ((v.toText convert).toList ++ ['\x00']).take 1
          go (padded slot one)
        | _ =>
          match Number.fill? slot v.toNumber with
          | some cs => go cs
          | none => stop (.improper (number + 1))
  | fuel + 1, number, c :: rest, vs, out => formatWithin convert fuel number rest vs ([c] :: out)

/-- Values put into a format by a function or a statement. -/
def formatted (who : String) (vs : List Value) : Work String := do
  let convert ← convertFormat
  match vs with
  | [] => pure ""
  | f :: vs => do
    let format := f.toText convert
    match formatWithin convert (format.length + 1) 0 format.toList vs [] with
    | (cs, none) => pure (String.ofList cs)
    | (cs, some fault) => do
      if who = "printf" then emit cs
      let named := who ++ "(\"" ++ format ++ "\")"
      match fault with
      | .notEnough => stopAt ("not enough arguments passed to " ++ named)
      | .improper n => stopAt ("improper conversion(number " ++ toString n ++ ") in " ++ named)

/-! ### Functions that every script has -/

/-- The part of a text from a place on, with a length. -/
def substring (cs : List Char) (start : Float) (length : Option Float) : List Char :=
  let whole (x : Float) : Int := Number.clamped x
  let b := whole start
  match length with
  | none => cs.drop (max b 1 - 1).toNat
  | some l =>
    let n := if b < 0 then whole l - b else whole l
    (cs.drop (max b 1 - 1).toNat).take n.toNat

/-- The first place of a text within another one, counted from one. -/
def indexOf (part : List Char) : Nat → List Char → Nat
  | n, cs =>
    if part.isPrefixOf cs then n
    else match cs with
      | [] => 0
      | _ :: rest => indexOf part (n + 1) rest

/-- The days from the first day of 1970 to a date. -/
def daysTo (year month day : Int) : Int :=
  let months := year * 12 + (month - 1)
  let (year, month) := (months / 12, months % 12 + 1)
  let y := if month ≤ 2 then year - 1 else year
  let m := if month ≤ 2 then month + 9 else month - 3
  365 * y + y / 4 - y / 100 + y / 400 + (153 * m + 2) / 5 + day - 1 - 719468

/-- The time of a date with six numbers. -/
def timeOf (text : String) : Int :=
  let numbers := (splitWhere (· = ' ') text.toList).filter (· ≠ "") |>.map String.toInt?
  match numbers with
  | some year :: some month :: some day :: some hour :: some minute :: some second :: _ =>
    daysTo year month day * 86400 + hour * 3600 + minute * 60 + second
  | _ => -1

def calculate (o : Operation) (x y : Float) : Float :=
  match o with
  | .add => x + y
  | .subtract => x - y
  | .multiply => x * y
  | .divide => x / y
  | .remainder => Number.remainder x y
  | .power => Float.pow x y

/-- The next number of a row without order. -/
def nextRandom (n : Nat) : Nat := (n * 6364136223846793005 + 1442695040888963407) % Nat.pow 2 64

def keyOf : Value → Work Key
  | .number x =>
    match Number.integer? x with
    | some n => pure (.number n)
    | none => do pure (.text (Number.written (← convertFormat) x))
  | v => pure (.text (v.toText ""))

/-! ### Expressions and statements -/

/-- Where a value can be put. -/
inductive Spot
  | named (name : String)
  | element (array : Nat) (key : Key)
  | field (n : Nat)

def Spot.get : Spot → Work Value
  | .named name => getVariable name
  | .element n k => do
    let (v, t) := (← table n).find k
    setTable n t
    pure v
  | .field n => getField n

def Spot.put (v : Value) : Spot → Work Unit
  | .named name => storeVariable name v
  | .element n k => do setTable n ((← table n).insert k v)
  | .field n => setField n v

/-- What expressions and statements need beside the state. -/
structure Setting where
  engine : Engine
  functions : List (String × Function)

/-- A call within calls that keep more than this many values is too deep. -/
def stackLimit : Nat := 1024

/-- Hands a name alone on to a function. -/
def handedOn (name : String) : Work Cell := do
  match ← cell? name with
  | some (.scalar .blank) | none =>
    if name = "NF" then do pure (.scalar (← getVariable name))
    else do
      let n := (← get).arrays.size
      modify fun m => { m with arrays := m.arrays.push {} }
      putCell name (.undecided n)
      pure (.undecided n)
  | some c => pure c

mutual

def eval (x : Setting) : Nat → Expr → Work Value
  | 0, _ => act (throw .stalled)
  | fuel + 1, e => do
    let number (e : Expr) : Work Float := do pure (← eval x fuel e).toNumber
    match e with
    | .number n => pure (.number n)
    | .text t => pure (.text t)
    | .regex r => do pure (.ofBool (Search.occursIn r (← get).record))
    | .named name => getVariable name
    | .element _ _ | .field _ => do (← spot x fuel e).get
    | .assign operation target value => do
      let s ← spot x fuel target
      match operation with
      | none => do
        let v ← eval x fuel value
        s.put v
        pure v
      | some o => do
        let b ← number value
        let a := (← s.get).toNumber
        let v := Value.number (calculate o a b)
        s.put v
        pure v
    | .conditional test yes no => do if (← eval x fuel test).isTrue then eval x fuel yes else eval x fuel no
    | .either a b => do
      if (← eval x fuel a).isTrue then pure (.ofBool true) else pure (.ofBool (← eval x fuel b).isTrue)
    | .both a b => do
      if (← eval x fuel a).isTrue then pure (.ofBool (← eval x fuel b).isTrue) else pure (.ofBool false)
    | .negated a => do pure (.ofBool !(← eval x fuel a).isTrue)
    | .minus a => do pure (.number (-(← number a)))
    | .plus a => do pure (.number (← number a))
    | .compare r a b => do
      let v ← eval x fuel a
      let w ← eval x fuel b
      pure (.ofBool (Value.holds r (Value.order (← convertFormat) v w)))
    | .search negated text p => do
      let t ← textOf (← eval x fuel text)
      let r ← pattern x fuel p
      pure (.ofBool (Search.occursIn r t != negated))
    | .contains keys array => do
      let k ← key x fuel keys
      let n ← arrayOf array
      let t ← table n
      setTable n (t.use false k)
      pure (.ofBool (t.contains k))
    | .chained a b => do
      let s ← textOf (← eval x fuel a)
      let t ← textOf (← eval x fuel b)
      pure (.text (s ++ t))
    | .calculate o a b => do
      let m ← number a
      let n ← number b
      pure (.number (calculate o m n))
    | .step up new target => do
      let s ← spot x fuel target
      let old := (← s.get).toNumber
      let next := if up then old + 1 else old - 1
      s.put (.number next)
      pure (.number (if new then next else old))
    | .call name arguments => call x fuel name arguments
    | .builtin f arguments => builtin x fuel f arguments
    | .take source name target => do
      let s? ← match target with
        | some e => some <$> spot x fuel e
        | none => pure none
      let store (text : String) : Work Unit :=
        match s? with
        | some s => s.put (.given text)
        | none => setRecord text
      match source, name with
      | .input, _ | _, none => do
        match ← nextRecord fileLimit with
        | some text => do
          store text
          pure (.ofNat 1)
        | none => pure (.ofNat 0)
      | _, some name => do
        let isCommand := source = .command
        let name ← textOf (← eval x fuel name)
        match ← nextOf x.engine isCommand name with
        | none => pure (.number (-1))
        | some none => pure (.ofNat 0)
        | some (some text) => do
          if isCommand then countRecord false
          store text
          pure (.ofNat 1)
  termination_by structural fuel => fuel

/-- The values of expressions, one after another. -/
def evalAll (x : Setting) : Nat → List Expr → Work (List Value)
  | 0, _ => act (throw .stalled)
  | _ + 1, [] => pure []
  | fuel + 1, e :: es => do
    let v ← eval x fuel e
    let vs ← evalAll x fuel es
    pure (v :: vs)
  termination_by structural fuel => fuel

/-- The name that subscripts make up. -/
def key (x : Setting) : Nat → List Expr → Work Key
  | 0, _ => act (throw .stalled)
  | fuel + 1, es => do
    match es with
    | [e] => keyOf (← eval x fuel e)
    | es => do
      let texts ← (← evalAll x fuel es).mapM textOf
      pure (.text (Text.joinWith (← specialText "SUBSEP") texts))
  termination_by structural fuel => fuel

/-- The place that an expression names. -/
def spot (x : Setting) : Nat → Expr → Work Spot
  | 0, _ => act (throw .stalled)
  | fuel + 1, e => do
    match e with
    | .named name => pure (.named name)
    | .element array keys => do
      let k ← key x fuel keys
      pure (.element (← arrayOf array) k)
    | .field index => do pure (.field (← fieldNumber (← eval x fuel index)))
    | _ => pure (.named "")
  termination_by structural fuel => fuel

/-- What is searched for. -/
def pattern (x : Setting) : Nat → Expr → Work Regex
  | 0, _ => act (throw .stalled)
  | fuel + 1, e => do
    match e with
    | .regex r => pure r
    | e => do compiled (← textOf (← eval x fuel e))
  termination_by structural fuel => fuel

/-- Calls a function. -/
def call (x : Setting) : Nat → String → List Expr → Work Value
  | 0, _, _ => act (throw .stalled)
  | fuel + 1, name, arguments => do
    match x.functions.lookup name with
    | none => pure .blank
    | some f => do
      let cells ← handOver x fuel arguments
      let own := f.parameters.zipIdx.map fun (n, i) => (n, (cells[i]?).getD (.scalar .blank))
      let before ← get
      let stack := before.stack + f.parameters.length
      if stackLimit < stack then stopWith ("program limit exceeded: eval stack size=" ++ toString stackLimit)
      set { before with locals := own, stack }
      let answer ← tryCatch (do
          exec x fuel f.body
          pure Value.blank)
        fun
          | .function v => pure v
          | other => throw other
      modify fun m => { m with locals := before.locals, stack := before.stack }
      pure answer
  termination_by structural fuel => fuel

/-- The arguments of a function. -/
def handOver (x : Setting) : Nat → List Expr → Work (List Cell)
  | 0, _ => act (throw .stalled)
  | _ + 1, [] => pure []
  | fuel + 1, e :: es => do
    let c ← match e with
      | .named name => handedOn name
      | e => Cell.scalar <$> eval x fuel e
    let cs ← handOver x fuel es
    pure (c :: cs)
  termination_by structural fuel => fuel

/-- Calls a function that every script has. -/
def builtin (x : Setting) : Nat → Builtin → List Expr → Work Value
  | 0, _, _ => act (throw .stalled)
  | fuel + 1, f, arguments => do
    let text (e : Expr) : Work String := do textOf (← eval x fuel e)
    let number (e : Expr) : Work Float := do pure (← eval x fuel e).toNumber
    let function (f : Float → Float) : Work Value :=
      match arguments with
      | [e] => do pure (.number (f (← number e)))
      | _ => pure .blank
    match f, arguments with
    | .length, [] => do pure (.ofNat (← get).record.length)
    | .length, e :: _ => do
      let array? : Option Nat ← match e with
        | .named name => do
          match ← cell? name with
          | some (.array n) | some (.undecided n) => pure (some n)
          | _ => pure none
        | _ => pure none
      match array? with
      | some n => do pure (.ofNat (← table n).values.size)
      | none => do pure (.ofNat (← text e).length)
    | .index, [a, b] => do
      let s ← text a
      let t ← text b
      pure (.ofNat (indexOf t.toList 1 s.toList))
    | .substring, a :: b :: rest => do
      let s ← text a
      let start ← number b
      let length ← match rest with
        | c :: _ => some <$> number c
        | [] => pure none
      pure (.text (String.ofList (substring s.toList start length)))
    | .split, a :: .named array :: rest => do
      let s ← text a
      let parts ← match rest with
        | [.regex r] => pure (Search.split r s)
        | e :: _ => do cutFields (← text e) false s
        | [] => do cutFields (← specialText "FS") ((← specialText "RS") = "") s
      let n ← arrayOf array
      setTable n (.ofList (parts.map Value.given))
      pure (.ofNat parts.length)
    | .locate, [a, p] => do
      let s ← text a
      let r ← pattern x fuel p
      let (place, length) : Float × Float := match Search.find? r s.toList.toArray 0 with
        | some (i, j) => (Float.ofNat (i + 1), Float.ofNat (j - i))
        | none => (0, -1)
      setSpecial "RSTART" (.number place)
      setSpecial "RLENGTH" (.number length)
      pure (.number place)
    | .substitute all, [p, new, target] => do
      let r ← pattern x fuel p
      let replacement ← text new
      let s ← spot x fuel target
      let (changed, n) := Search.replace r replacement all (← textOf (← s.get))
      if 0 < n then s.put (.text changed)
      pure (.ofNat n)
    | .formatted, es => do pure (.text (← formatted "sprintf" (← evalAll x fuel es)))
    | .upper, [e] => do pure (.text ((← text e).map Char.toUpper))
    | .lower, [e] => do pure (.text ((← text e).map Char.toLower))
    | .sine, _ => function Float.sin
    | .cosine, _ => function Float.cos
    | .arctangent, [a, b] => do
      let y ← number a
      let z ← number b
      pure (.number (Float.atan2 y z))
    | .exponential, _ => function Float.exp
    | .logarithm, _ => function Float.log
    | .root, _ => function Float.sqrt
    | .whole, _ => function fun n => if n < 0 then n.ceil else n.floor
    | .random, _ => do
      let n := nextRandom (← get).random
      modify fun m => { m with random := n }
      pure (.number (Float.ofNat (n / Nat.pow 2 11) / Float.ofNat (Nat.pow 2 53)))
    | .seed, es => do
      let next ← match es with
        | e :: _ => number e
        | [] => pure (Float.ofNat Clock.start)
      let old := (← get).seed
      modify fun m => { m with seed := next }
      pure (.number old)
    | .system, [e] => do
      let command ← text e
      flushAll
      let n ← act (Tool.runCommandText x.engine command)
      pure (.ofNat (seenStatus n))
    | .close, [e] => do
      match ← closeNamed x.engine (← text e) with
      | some n => pure (.ofNat n)
      | none => pure (.number (-1))
    | .flush, _ => do
      flushAll
      pure (.ofNat 0)
    | .time, _ => pure (.ofNat Clock.start)
    | .timeText, es => do
      let format ← match es with
        | e :: _ => text e
        | [] => pure "%c"
      let seconds ← match es.drop 1 with
        | e :: _ => number e
        | [] => pure (Float.ofNat Clock.start)
      pure (.text (String.ofList (Clock.format (Number.clamped seconds).toNat format.toList)))
    | .makeTime, [e] => do pure (.number (Float.ofInt (timeOf (← text e))))
    | _, _ => pure .blank
  termination_by structural fuel => fuel

def exec (x : Setting) : Nat → Statement → Work Unit
  | 0, _ => act (throw .stalled)
  | fuel + 1, s => do
    let target (t : Option Target) (cs : List Char) : Work Unit := do
      match t with
      | none => emit cs
      | some (.file append e) => do emitTo false append (← textOf (← eval x fuel e)) cs
      | some (.command e) => do emitTo true false (← textOf (← eval x fuel e)) cs
    match s with
    | .expression e => do
      let _ ← eval x fuel e
    | .print arguments t => do
      let vs ← if arguments.isEmpty then do pure [Value.text (← get).record] else evalAll x fuel arguments
      let format := (← special "OFMT").toText "%.6g"
      let text := Text.joinWith (← specialText "OFS") (vs.map (Value.toText format))
      target t (text ++ (← specialText "ORS")).toList
    | .printFormatted arguments t => do
      let vs ← evalAll x fuel arguments
      let text ← formatted "printf" vs
      target t text.toList
    | .block ss => execAll x fuel ss
    | .conditional test yes no => do
      if (← eval x fuel test).isTrue then exec x fuel yes else exec x fuel no
    | .loop test body => repeated x fuel (some test) none body
    | .loopAfter body test => do
      if ← round x fuel body then repeated x fuel (some test) none body
    | .count start test next body => do
      if let some e := start then
        let _ ← eval x fuel e
      repeated x fuel test next body
    | .each name array body => do
      let n ← arrayOf array
      let (names, t) := (← table n).names
      setTable n t
      through x fuel name names body
    | .leaveLoop => throw .loop
    | .nextRound => throw .round
    | .nextRecord => throw .record
    | .nextFile => throw .file
    | .finish status => do
      if let some e := status then
        let v ← eval x fuel e
        modify fun m => { m with status := ((Number.clamped v.toNumber) % 256).toNat }
      throw .finished
    | .giveBack value => do
      let v ← match value with
        | some e => eval x fuel e
        | none => pure .blank
      throw (.function v)
    | .erase array keys => do
      let k ← key x fuel keys
      let n ← arrayOf array
      setTable n ((← table n).erase k)
    | .eraseAll array => do setTable (← arrayOf array) {}
  termination_by structural fuel => fuel

/-- Statements one after another. -/
def execAll (x : Setting) : Nat → List Statement → Work Unit
  | 0, _ => act (throw .stalled)
  | _ + 1, [] => pure ()
  | fuel + 1, s :: ss => do
    exec x fuel s
    execAll x fuel ss
  termination_by structural fuel => fuel

/-- One round of a loop; tells whether another one may follow. -/
def round (x : Setting) : Nat → Statement → Work Bool
  | 0, _ => act (throw .stalled)
  | fuel + 1, body =>
    tryCatch (do
        exec x fuel body
        pure true)
      fun
        | .loop => pure false
        | .round => pure true
        | other => throw other
  termination_by structural fuel => fuel

/-- The rounds of a loop as long as a test holds. -/
def repeated (x : Setting) : Nat → Option Expr → Option Expr → Statement → Work Unit
  | 0, _, _, _ => act (throw .stalled)
  | fuel + 1, test, next, body => do
    let holds ← match test with
      | some e => do pure (← eval x fuel e).isTrue
      | none => pure true
    if holds then
      if ← round x fuel body then
        if let some e := next then
          let _ ← eval x fuel e
        repeated x fuel test next body
  termination_by structural fuel => fuel

/-- A round for each name. -/
def through (x : Setting) : Nat → String → List String → Statement → Work Unit
  | 0, _, _, _ => act (throw .stalled)
  | _ + 1, _, [], _ => pure ()
  | fuel + 1, name, n :: names, body => do
    storeVariable name (.text n)
    if ← round x fuel body then through x fuel name names body
  termination_by structural fuel => fuel

end

/-- A bound on the depth of a script and on the rounds of a loop. -/
def roundLimit : Nat := 3000000

/-! ### Records -/

/-- Whether a rule is for the record. -/
def applies (x : Setting) (i : Nat) : When → Work Bool
  | .before | .after => pure false
  | .always => pure true
  | .on test => do pure (← eval x roundLimit test).isTrue
  | .between first last => do
    let inside := (← get).inside.contains i
    let starts ← if inside then pure true else do pure (← eval x roundLimit first).isTrue
    if !starts then pure false
    else do
      let ends := (← eval x roundLimit last).isTrue
      modify fun m =>
        { m with inside := if ends then m.inside.erase i else if inside then m.inside else i :: m.inside }
      pure true

/-- What the rules do with a record. -/
def handle (x : Setting) (rules : List (Rule × Nat)) : Work Unit :=
  tryCatch (rules.forM fun (rule, i) => do
      if ← applies x i rule.moment then exec x roundLimit rule.action)
    fun
      | .record => pure ()
      | .file => modify fun m => { m with feed := none }
      | other => throw other

/-- Goes through the records, so many of them at most. -/
def records (x : Setting) (rules : List (Rule × Nat)) : Nat → Work Unit
  | 0 => act (throw .stalled)
  | fuel + 1 => do
    match ← nextRecord fileLimit with
    | none => pure ()
    | some text => do
      setRecord text
      handle x rules
      records x rules fuel

/-- A step that `exit` ends. -/
def untilFinished (a : Work Unit) : Work Unit :=
  tryCatch a fun
    | .stopped => throw .stopped
    | _ => pure ()

def isBefore : When → Bool
  | .before => true
  | _ => false

def isAfter : When → Bool
  | .after => true
  | _ => false

/-- Runs a script. -/
def runScript (e : Engine) (s : Script) : Work Unit := do
  let x : Setting := { engine := e, functions := s.functions }
  let before := s.rules.filter fun r => isBefore r.moment
  let after := s.rules.filter fun r => isAfter r.moment
  let among := (s.rules.filter fun r => !isBefore r.moment && !isAfter r.moment).zipIdx
  let actions (rs : List Rule) : Work Unit := rs.forM fun r => exec x roundLimit r.action
  tryCatch (do
      untilFinished do
        tryCatch (do
            actions before
            if !among.isEmpty || !after.isEmpty then records x among roundLimit)
          fun
            | .finished => pure ()
            | other => throw other
      untilFinished (actions after))
    fun _ => pure ()
  closeAll e

end Records

namespace Tool
open Records

/-- What the record processor is called with. -/
structure RecordCall where
  separator : Option String := none
  assignments : List String := []
  files : List String := []
  version : Bool := false
  unknown : Option String := none
  rest : List String := []

/-- The options at the front of the arguments. -/
def readRecordCall (c : RecordCall) : List String → RecordCall
  | [] => c
  | a :: rest =>
    let value (key : String) (take : String → RecordCall) : RecordCall :=
      if a = key then
        match rest with
        | v :: more => readRecordCall (take v) more
        | [] => { c with unknown := some key }
      else readRecordCall (take (a.drop 2).toString) rest
    if a = "--" then { c with rest }
    else if a = "--version" || a = "-W" && rest.head? = some "version" then { c with version := true }
    else if a.startsWith "-F" then value "-F" fun v => { c with separator := some v }
    else if a.startsWith "-v" then value "-v" fun v => { c with assignments := c.assignments ++ [v] }
    else if a.startsWith "-f" then value "-f" fun v => { c with files := c.files ++ [v] }
    else if a.startsWith "-" && a ≠ "-" then { c with unknown := some a }
    else { c with rest := a :: rest }
  termination_by words => words.length
  decreasing_by all_goals (simp_wf; try omega)

/-- What the record processor says of how it is called. -/
def recordUsage : List String :=
  ["Usage: mawk [Options] [Program] [file ...]", "", "Program:",
    "    The -f option value is the name of a file containing program text.",
    "    If no -f option is given, a \"--\" ends option processing; the following",
    "    parameters are the program text.", "", "Options:",
    "    -f program-file  Program  text is read from file instead of from the",
    "                     command-line.  Multiple -f options are accepted.",
    "    -F value         sets the field separator, FS, to value.",
    "    -v var=value     assigns value to program variable var.",
    "    --               unambiguous end of options.", "",
    "    Implementation-specific options are prefixed with \"-W\".  They can be",
    "    abbreviated:", "",
    "    -W version       show version information and exit.",
    "    -W compat        pre-POSIX 2001.",
    "    -W dump          show assembler-like listing of program and exit.",
    "    -W help          show this message and exit.",
    "    -W interactive   set unbuffered output, line-buffered input.",
    "    -W exec file     use file as program as well as last option.",
    "    -W posix         stricter POSIX checking.",
    "    -W random=number set initial random seed.",
    "    -W sprintf=number adjust size of sprintf buffer.",
    "    -W usage         show this message and exit."]

/-- The text of a script that stands in files, or what is wrong with them. -/
def scriptInFiles (names : List String) : Act (Except String (List Char)) := do
  let mut all : List Char := []
  for name in names do
    match ← readSource name with
    | .ok bytes => all := all ++ Encoding.decode .ascii bytes
    | .error r => return .error ("cannot open \"" ++ name ++ "\" (" ++ r.text ++ ")")
  return .ok all

/-- Goes through records as a script says. -/
def processRecords : Starting := fun e arguments => do
  let c := readRecordCall {} arguments
  let s ← get
  if c.version then do
    say 1 "mawk 1.3.4 20240123"
    pure 0
  else match c.unknown with
    | some a => fail ("not an option: " ++ a) 2
    | none =>
      match c.assignments.find? fun a => (assignmentIn? a).isNone with
      | some a => fail ("improper assignment: -v " ++ a) 2
      | none =>
        let plainText (t : String) : List Char := Encoding.decode .ascii (bytesOf t.toList)
        let recoded (t : String) : String := String.ofList (plainText t)
        let label := match c.files.getLast? with
          | some f => f ++ ": "
          | none => ""
        let source : Option (Act (Except String (List Char)) × List String) :=
          if !c.files.isEmpty then some (scriptInFiles c.files, c.rest)
          else match c.rest with
            | [] => none
            | p :: rest => some (pure (.ok (plainText p)), rest)
        match source with
        | none => do
          recordUsage.forM (say 2)
          pure 0
        | some (text, files) => do
          match ← text with
          | .error t => fail t 2
          | .ok cs =>
            match readScript label cs with
            | .error messages => do
              messages.forM remark
              pure 2
            | .ok script => do
              let words := s.name :: files
              let run : Work Unit := do
                startCells.forM fun (n, v) => setSpecial n v
                let environment ← arrayOf "ENVIRON"
                for (n, v) in surroundings s do
                  setTable environment ((← table environment).insert (.text (recoded n)) (.given (recoded v)))
                let given ← arrayOf "ARGV"
                setSpecial "ARGC" (.ofNat words.length)
                for (w, i) in words.zipIdx do
                  setTable given ((← table given).insert (.number i) (.given (recoded w)))
                if let some f := c.separator then
                  let text := unescapedText (plainText f)
                  setSpecial "FS" (.text text)
                  if 1 < text.length then
                    match Search.read text.toList with
                    | .ok _ => pure ()
                    | .error f => do
                      stopWith ("line 0: regular expression compile failed (" ++ f.message ++ ")\n" ++ text)
                for a in c.assignments do
                  if let some (n, t) := assignmentIn? (recoded a) then storeVariable n (.given t)
                runScript e script
              let (_, m) ← (run.run).run {}
              pure m.status

end Tool
end LintRun.Shell
