import LintRun.Report.Stamp
import LintRun.Text.Digit

/-!
# Shell — Times

Times as formats show them, in universal time, and lengths of time.

* `duration?`: a length of time as the arguments of commands give it.
* `Clock.format`: a time, given in seconds since the first day of 1970, put into a format.
-/

namespace LintRun.Shell

/-- A length of time in microseconds: a decimal numeral, and a unit that may follow. -/
def duration? (text : String) : Option Nat :=
  if text = "infinity" || text = "inf" then some (Nat.pow 10 15)
  else
    let cs := text.toList
    let whole := cs.takeWhile Text.isAsciiDigit
    let (part, rest) := match cs.drop whole.length with
      | '.' :: more =>
        let part := more.takeWhile Text.isAsciiDigit
        (part, more.drop part.length)
      | rest => ([], rest)
    let unit := match rest with
      | [] | ['s'] => some 1
      | ['m'] => some 60
      | ['h'] => some 3600
      | ['d'] => some 86400
      | _ => none
    if whole.isEmpty && part.isEmpty then none
    else unit.map fun u =>
      u * (Text.numberOf 10 whole * 1000000 + Text.numberOf 10 ((part ++ List.replicate 6 '0').take 6))

namespace Clock

/-- A time of which every shell assumes that it started then. -/
def start : Nat := 1767225600

def weekdays : List String := ["Sunday", "Monday", "Tuesday", "Wednesday", "Thursday", "Friday", "Saturday"]

def months : List String :=
  ["January", "February", "March", "April", "May", "June", "July", "August", "September", "October", "November",
    "December"]

/-- The first three letters of a name. -/
def short (name : String) : String := (name.take 3).toString

/-- The number with blanks in front of it. -/
def blankPadded (width n : Nat) : String :=
  let digits := Nat.toDigits 10 n
  String.ofList (List.replicate (width - digits.length) ' ' ++ digits)

/-- The number of the day in its year, from one. -/
def dayOfYear (days : Nat) : Nat :=
  let (year, _, _) := Report.dateOf days
  (((List.range 366).map fun back => (back, Report.dateOf (days - back))).filter fun (back, y, _, _) =>
    back ≤ days && y = year).length

/-- The year of the week that a day is in, and the number of the week, which starts on Monday. -/
def weekOf (days : Nat) : Nat × Nat :=
  let weekday := (days + 3) % 7
  let thursday := days + 3 - weekday
  let (year, _, _) := Report.dateOf thursday
  (year, (dayOfYear thursday - 1) / 7 + 1)

/-- What a letter of a format stands for. -/
def field? (seconds : Nat) (c : Char) : Option String :=
  let days := seconds / 86400
  let rest := seconds % 86400
  let (year, month, day) := Report.dateOf days
  let (hour, minute, second) := (rest / 3600, rest / 60 % 60, rest % 60)
  let twelve := if hour % 12 = 0 then 12 else hour % 12
  let weekday := (days + 4) % 7
  let two (n : Nat) : Option String := some (Report.padded 2 n)
  match c with
  | 'Y' => some (toString year)
  | 'C' => two (year / 100)
  | 'y' => two (year % 100)
  | 'm' => two month
  | 'd' => two day
  | 'e' => some (blankPadded 2 day)
  | 'j' => some (Report.padded 3 (dayOfYear days))
  | 'H' => two hour
  | 'I' => two twelve
  | 'k' => some (blankPadded 2 hour)
  | 'l' => some (blankPadded 2 twelve)
  | 'M' => two minute
  | 'S' => two second
  | 'p' => some (if hour < 12 then "AM" else "PM")
  | 'P' => some (if hour < 12 then "am" else "pm")
  | 's' => some (toString seconds)
  | 'a' => some (short (weekdays.getD weekday ""))
  | 'A' => some (weekdays.getD weekday "")
  | 'b' | 'h' => some (short (months.getD (month - 1) ""))
  | 'B' => some (months.getD (month - 1) "")
  | 'u' => some (toString (if weekday = 0 then 7 else weekday))
  | 'w' => some (toString weekday)
  | 'U' => two ((dayOfYear days + 6 - weekday) / 7)
  | 'W' => two ((dayOfYear days + 6 - (weekday + 6) % 7) / 7)
  | 'V' => two (weekOf days).2
  | 'G' => some (toString (weekOf days).1)
  | 'g' => two ((weekOf days).1 % 100)
  | 'z' => some "+0000"
  | 'Z' => some "UTC"
  | 'N' => some "000000000"
  | 'n' => some "\n"
  | 't' => some "\t"
  | _ => none

/-- The letters that stand for formats of their own. -/
def longer? (c : Char) : Option String :=
  match c with
  | 'F' => some "%Y-%m-%d"
  | 'T' | 'X' => some "%H:%M:%S"
  | 'R' => some "%H:%M"
  | 'D' | 'x' => some "%m/%d/%y"
  | 'c' => some "%a %b %e %H:%M:%S %Y"
  | 'r' => some "%I:%M:%S %p"
  | _ => none

/-- A format with those letters replaced. -/
def lengthened : List Char → List Char
  | '%' :: c :: rest =>
    match longer? c with
    | some text => text.toList ++ lengthened rest
    | none => '%' :: c :: lengthened rest
  | c :: rest => c :: lengthened rest
  | [] => []

/-- A time put into a format. -/
def filled (seconds : Nat) : List Char → List Char
  | '%' :: '%' :: rest => '%' :: filled seconds rest
  | '%' :: '-' :: c :: rest =>
    match field? seconds c with
    | some text =>
      let cs := text.toList.dropWhile fun c => c = '0' || c = ' '
      (if cs.isEmpty then ['0'] else cs) ++ filled seconds rest
    | none => '%' :: '-' :: c :: filled seconds rest
  | '%' :: c :: rest =>
    match field? seconds c with
    | some text => text.toList ++ filled seconds rest
    | none => '%' :: c :: filled seconds rest
  | c :: rest => c :: filled seconds rest
  | [] => []

/-- A time in a format. -/
def format (seconds : Nat) (cs : List Char) : List Char := filled seconds (lengthened cs)

end Clock
end LintRun.Shell
