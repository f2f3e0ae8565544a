import LintRun.Shell.Clock
import LintRun.Shell.Condition
import LintRun.Shell.Format
import LintRun.Shell.Tool.Basic

/-!
# Shell — Programs of the system: words

Programs that print their arguments, parts of them, or something about the system.
-/

namespace LintRun.Shell
namespace Tool

/-- Writes the same bytes over and over again, at most so many times. -/
def repeatOutput (bytes : List UInt8) : Nat → Act Nat
  | 0 => throw .stalled
  | rounds + 1 => do
    write 1 bytes
    if (← get).lost.isSome then pure 1 else repeatOutput bytes rounds

def yes : Plain := fun arguments => do
  let words := if arguments.head? = some "--" then arguments.drop 1 else arguments
  let line := ascii ((if words.isEmpty then "y" else Text.joinWith " " words) ++ "\n")
  repeatOutput (List.replicate (4096 / line.length + 1) line).flatten 1000

def sleep : Plain :=
  withChoices [] fun _ words => do
    let s ← get
    match words with
    | [] => misuse "missing operand"
    | _ =>
      let bad := words.filter fun w => (duration? w).isNone
      if bad.isEmpty then do
        spend ((words.filterMap duration?).foldl (· + ·) 0)
        pure 0
      else do
        bad.forM fun w => remark ("invalid time interval " ++ quotedFor s w)
        misuse ""

/-- The last part of a path, without an ending. -/
def baseName (path ending : String) : String :=
  let cs := (path.toList.reverse.dropWhile (· = '/')).reverse
  let last := if cs.isEmpty && path ≠ "" then ['/'] else (cs.reverse.takeWhile (· ≠ '/')).reverse
  let kept := if ending ≠ "" && last ≠ ending.toList && ending.toList.isSuffixOf last
    then last.take (last.length - ending.length) else last
  String.ofList kept

/-- The path without its last part. -/
def directoryName (path : String) : String :=
  let slash (c : Char) : Bool := c = '/'
  let cs := path.toList.reverse.dropWhile slash
  let above := (cs.dropWhile fun c => !slash c).dropWhile slash
  if !above.isEmpty then String.ofList above.reverse else if path.startsWith "/" then "/" else "."

/-- Prints texts, each with an end. -/
def printAll (chosen : List Choice) (texts : List String) : Act Unit := do
  let mark : UInt8 := if has chosen "z" || has chosen "0" then 0 else 10
  write 1 (texts.flatMap fun t => ascii t ++ [mark])

def basename : Plain :=
  withChoices ["a/multiple", "s/suffix=", "z/zero"] fun chosen words => do
    let several := has chosen "a" || has chosen "s"
    match words with
    | [] => misuse "missing operand"
    | _ =>
      if several then
        printAll chosen (words.map fun w => baseName w ((value? chosen "s").getD ""))
        pure 0
      else match words with
        | _ :: _ :: extra :: _ => misuse ("extra operand " ++ quotedFor (← get) extra)
        | _ => do
          printAll chosen [baseName (words.headD "") (words.getD 1 "")]
          pure 0

def dirname : Plain :=
  withChoices ["z/zero"] fun chosen words => do
    if words.isEmpty then misuse "missing operand"
    else
      printAll chosen (words.map directoryName)
      pure 0

/-- What a program sees of its environment. -/
def surroundings (s : State) : Environment := s.bindings.filterMap fun (n, v) => v.value?.map (n, ·)

def printEnvironment : Plain :=
  withChoices ["0/null"] (fun chosen words => do
    let environment := surroundings (← get)
    if words.isEmpty then
      printAll chosen (environment.map fun (n, v) => n ++ "=" ++ v)
      pure 0
    else
      printAll chosen (words.filterMap fun n => if n.toList.contains '=' then none else environment.get? n)
      pure (if words.all fun n => (environment.get? n).isSome then 0 else 1)) 2 false

def workingDirectory : Plain :=
  withChoices ["L/logical", "P/physical"] fun _ words => do
    if !words.isEmpty then remark "ignoring non-option arguments"
    say 1 (directoryText (← get).tree)
    pure 0

def printf : Plain := fun arguments => do
  let words := if arguments.head? = some "--" then arguments.drop 1 else arguments
  match words with
  | [] => misuse "missing operand"
  | format :: rest => do
    let o := printed .program plainlyQuoted format rest
    let said := o.events.filterMap fun
      | .complaint text => some text
      | _ => none
    said.forM remark
    write 1 o.bytes
    if !o.used && !rest.isEmpty then
      remark ("warning: ignoring excess arguments, starting with " ++ quotedFor (← get) (rest.headD ""))
    pure o.status

def echo : Plain := fun arguments => do
  write 1 (echoBytes .bash arguments)
  pure 0

/-- A condition as a program of its own, whose wording is its own. -/
def test (bracketed : Bool) : Plain := fun arguments => do
  let s ← get
  if bracketed && arguments.getLast? ≠ some "]" then fail ("missing " ++ quotedFor s "]") 2
  else
    let words := if bracketed then arguments.dropLast else arguments
    match Condition.holds { s with dialect := .bash } words with
    | .ok true => pure 0
    | .ok false => pure 1
    | .error t =>
      let last := quotedFor s (words.getLast?.getD "")
      let text := match t with
        | .notInteger w => "invalid integer " ++ quotedFor s w
        | .unaryExpected w => if words.length = 2 then "missing argument after " ++ last else quotedFor s w ++
            ": unary operator expected"
        | .binaryExpected w => quotedFor s w ++ ": binary operator expected"
        | .argumentExpected _ => "missing argument after " ++ last
        | .unexpected w | .closingExpected (some w) => "extra argument " ++ quotedFor s w
        | .closingExpected none => "missing argument after " ++ last
        | .tooMany => "extra argument " ++ quotedFor s (words.getD 3 "")
        | .unclosed => "missing " ++ quotedFor s "]"
      fail text 2

/-! ### The system -/

def uname : Plain :=
  withChoices ["a/all", "s/kernel-name", "n/nodename", "r/kernel-release", "v/kernel-version", "m/machine",
    "p/processor", "i/hardware-platform", "o/operating-system"] fun chosen words => do
    match words with
    | w :: _ => misuse ("extra operand " ++ quotedFor (← get) w)
    | [] => do
      let on (key : String) : Bool := has chosen key || (has chosen "a" && key ≠ "p" && key ≠ "i")
      let parts := [("s", "Linux"), ("n", "localhost"), ("r", "6.1.0"), ("v", "#1 SMP"), ("m", "x86_64"),
        ("p", "unknown"), ("i", "unknown"), ("o", "GNU/Linux")].filter fun (k, _) => on k || (chosen.isEmpty && k = "s")
      say 1 (Text.joinWith " " (parts.map Prod.snd))
      pure 0

def identity : Plain :=
  withChoices ["u/user", "g/group", "G/groups", "n/name", "r/real", "z/zero", "a"] fun chosen words => do
    match words.find? (fun w => w ≠ "root" && w ≠ "0") with
    | some w => fail (quotedFor (← get) w ++ ": no such user")
    | none => do
      if has chosen "u" || has chosen "g" || has chosen "G" then say 1 (if has chosen "n" then "root" else "0")
      else say 1 "uid=0(root) gid=0(root) groups=0(root)"
      pure 0

/-- A program that prints a line about the system. -/
def tells (text : String) : Plain :=
  withChoices [] fun _ words => do
    match words with
    | w :: _ => misuse ("extra operand " ++ quotedFor (← get) w)
    | [] => do
      say 1 text
      pure 0

def hostname : Plain := fun _ => do
  say 1 "localhost"
  pure 0

def processors : Plain :=
  withChoices ["/all", "/ignore="] fun _ _ => do
    say 1 "1"
    pure 0

def terminal : Plain :=
  withChoices ["s/silent", "/quiet"] fun chosen _ => do
    if chosen.isEmpty then say 1 "not a tty"
    pure 1

def loginName : Plain := fun _ => fail "no login name"

/-! ### Dates -/

/-- The number of days since the start of 1970. -/
def dayNumber (year month day : Nat) : Int :=
  let y : Int := if month ≤ 2 then (year : Int) - 1 else year
  let era := Int.fdiv y 400
  let inEra := y - era * 400
  let m : Int := if month > 2 then (month : Int) - 3 else (month : Int) + 9
  let inYear := Int.fdiv (153 * m + 2) 5 + day - 1
  era * 146097 + (inEra * 365 + Int.fdiv inEra 4 - Int.fdiv inEra 100 + inYear) - 719468

/-- The numbers of a text between marks. -/
def numbersOf (mark : Char) (text : String) : Option (List Nat) :=
  ((Text.splitAt mark text.toList).map fun cs => Text.natural? (String.ofList cs)).mapM id

/-- The seconds since the start of 1970 that a text stands for. -/
def secondsOf? (now : Nat) (text : String) : Option Nat :=
  let cs := Text.trimPlain text.toList
  let words := ((Text.splitAt ' ' (cs.map fun c => if c = 'T' then ' ' else c)).map String.ofList).filter (· ≠ "")
  let clock (w : String) : Option Nat :=
    let w := if w.endsWith "Z" then (w.dropEnd 1).toString else w
    match numbersOf ':' w with
    | some [h, m] => if h < 24 && m < 60 then some (h * 3600 + m * 60) else none
    | some [h, m, s] => if h < 24 && m < 60 && s < 61 then some (h * 3600 + m * 60 + s) else none
    | _ => none
  let day (w : String) : Option Nat :=
    match numbersOf '-' w with
    | some [y, m, d] =>
      if 1970 ≤ y && 1 ≤ m && m ≤ 12 && 1 ≤ d && d ≤ 31 then some ((dayNumber y m d).toNat * 86400) else none
    | _ => none
  let ago (count : Nat) (unit : String) : Option Nat :=
    [("second", 1), ("sec", 1), ("minute", 60), ("min", 60), ("hour", 3600), ("day", 86400), ("week", 604800)].findSome?
      fun (u, n) => if unit = u || unit = u ++ "s" then some (count * n) else none
  match cs, words with
  | '@' :: ds, _ => Text.natural? (String.ofList ds)
  | _, [] => some (now / 86400 * 86400)
  | _, ["now"] | _, ["today"] => some now
  | _, ["yesterday"] => some (now - 86400)
  | _, ["tomorrow"] => some (now + 86400)
  | _, [n, unit, "ago"] => do
    let d ← ago (← Text.natural? n) unit
    some (now - d)
  | _, [n, unit] =>
    match day n with
    | some d => (clock unit).map (d + ·)
    | none => do
      let d ← ago (← Text.natural? (if n.startsWith "+" then (n.drop 1).toString else n)) unit
      some (now + d)
  | _, [w] => (day w).orElse fun _ => (clock w).map (now / 86400 * 86400 + ·)
  | _, [w, t, zone] => if zone = "UTC" || zone = "Z" then do some ((← day w) + (← clock t)) else none
  | _, _ => none

def date : Plain :=
  withChoices ["d/date=", "f/file=", "I/iso-8601=?", "R/rfc-email", "/rfc-3339=", "r/reference=", "s/set=", "u/utc",
    "/universal", "/debug"] fun chosen words => do
    let s ← get
    let now := Clock.start + s.elapsed / 1000000
    match secondsOf? now ((value? chosen "d").getD "now"), words with
    | none, _ => fail ("invalid date " ++ quotedFor s ((value? chosen "d").getD ""))
    | some t, w :: rest =>
      if w.startsWith "+" then
        match rest with
        | extra :: _ => misuse ("extra operand " ++ quotedFor s extra)
        | [] => do
          say 1 (String.ofList (Clock.format t (w.toList.drop 1)))
          pure 0
      else fail ("invalid date " ++ quotedFor s w)
    | some t, [] => do
      let format :=
        if has chosen "R" then "%a, %d %b %Y %H:%M:%S %z"
        else match value? chosen "I", value? chosen "rfc-3339" with
          | some "", _ | some "date", _ | none, some "date" => "%Y-%m-%d"
          | some "hours", _ => "%Y-%m-%dT%H+00:00"
          | some "minutes", _ => "%Y-%m-%dT%H:%M+00:00"
          | some _, _ => "%Y-%m-%dT%H:%M:%S+00:00"
          | none, some _ => "%Y-%m-%d %H:%M:%S+00:00"
          | none, none => "%a %b %e %H:%M:%S UTC %Y"
      say 1 (String.ofList (Clock.format t format.toList))
      pure 0

end Tool
end LintRun.Shell
