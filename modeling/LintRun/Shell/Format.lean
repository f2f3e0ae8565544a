import LintRun.Shell.Clock
import LintRun.Shell.Encoding
import LintRun.Shell.Floating

/-!
# Shell — Formatted output

What the commands `echo` and `printf` write, as bytes.

* `echoBytes`: the arguments with blanks between them.
* `printed`: the arguments put into a format, which is used again until no argument is left.
-/

namespace LintRun.Shell

/-- Where a backslash stands. -/
inductive EscapePlace
  | format
  | argument
  | echo
  /-- Between quotes that follow a dollar sign. -/
  | quote
  deriving DecidableEq, Repr

/-- At most `limit` digits of a base at the front. -/
def digitsAt (base limit : Nat) (cs : List Char) : List Char :=
  (cs.take limit).takeWhile fun c => (Text.digitIn? base c).isSome

def simpleEscapes : List (Char × UInt8) :=
  [('a', 7), ('b', 8), ('f', 12), ('n', 10), ('r', 13), ('t', 9), ('v', 11), ('\\', 92)]

/-- The bytes of an escape and how many characters after the backslash it takes; nothing for the escape that ends
all output. -/
def escape (d : Dialect) (place : EscapePlace) (cs : List Char) : Option (List UInt8 × Nat) :=
  let byte (n : Nat) : UInt8 := UInt8.ofNat (n % 256)
  let bash := d = .bash
  match cs with
  | [] => some ([92], 0)
  | c :: rest =>
    match simpleEscapes.lookup c with
    | some b => some ([b], 1)
    | none =>
      if c = 'c' && place = .quote then
        match rest with
        | x :: _ => some ([byte (x.toUpper.toNat % 32)], 2)
        | [] => some (bytesOf ['\\', 'c'], 1)
      else if c = 'c' && place ≠ .format then none
      else if c = '0' && (place = .argument || place = .echo) then
        let digits := digitsAt 8 3 rest
        some ([byte (Text.numberOf 8 digits)], digits.length + 1)
      else if (Text.digitIn? 8 c).isSome && !(bash && place = .echo) then
        let digits := digitsAt 8 3 cs
        some ([byte (Text.numberOf 8 digits)], digits.length)
      else if c = 'e' || (bash && c = 'E') then some ([27], 1)
      else if bash && c = 'x' && !(digitsAt 16 2 rest).isEmpty then
        let digits := digitsAt 16 2 rest
        some ([byte (Text.numberOf 16 digits)], digits.length + 1)
      else if bash && (c = 'u' || c = 'U') && !(digitsAt 16 4 rest).isEmpty then
        let digits := digitsAt 16 (if c = 'u' then 4 else 8) rest
        some (bytesOf [Char.ofNat (Text.numberOf 16 digits)], digits.length + 1)
      else if bash && (place = .format || place = .quote) && (c = '"' || c = '\'' || c = '?') then
        some (bytesOf [c], 1)
      else some (92 :: bytesOf [c], 1)

/-- The bytes of a text with its escapes, and whether output goes on after it. -/
def unescape (d : Dialect) (place : EscapePlace) : Nat → List Char → List UInt8 × Bool
  | 0, _ => ([], true)
  | _ + 1, [] => ([], true)
  | fuel + 1, '\\' :: rest =>
    match escape d place rest with
    | none => ([], false)
    | some (bytes, n) =>
      let (more, goesOn) := unescape d place fuel (rest.drop n)
      (bytes ++ more, goesOn)
  | fuel + 1, c :: rest =>
    let (more, goesOn) := unescape d place fuel rest
    (bytesOf [c] ++ more, goesOn)

def unescaped (d : Dialect) (place : EscapePlace) (cs : List Char) : List UInt8 × Bool :=
  unescape d place (cs.length + 1) cs

/-! ### Arguments with blanks between them -/

/-- The options at the front of the arguments: whether the line stays open, whether backslashes count. -/
def echoOptions (d : Dialect) (isOpen escapes : Bool) : List String → Bool × Bool × List String
  | [] => (isOpen, escapes, [])
  | a :: rest =>
    let letters := a.toList.drop 1
    let isOption := a.startsWith "-" && !letters.isEmpty &&
      (if d = .bash then letters.all fun c => c = 'n' || c = 'e' || c = 'E' else letters = ['n'])
    if isOption then
      let escapes := letters.foldl (fun on c => if c = 'e' then true else if c = 'E' then false else on) escapes
      let isOpen := isOpen || letters.contains 'n'
      if d = .bash then echoOptions d isOpen escapes rest else (isOpen, escapes, rest)
    else (isOpen, escapes, a :: rest)

def echoBytes (d : Dialect) (arguments : List String) : List UInt8 :=
  let (isOpen, escapes, words) := echoOptions d false (d = .posix) arguments
  let text := (Text.joinWith " " words).toList
  let (bytes, goesOn) := if escapes then unescaped d .echo text else (bytesOf text, true)
  if isOpen || !goesOn then bytes else bytes ++ [10]

/-! ### Formats -/

/-- Who puts arguments into a format: one of the shells, or a program of its own. -/
inductive Printer
  | shell (d : Dialect)
  | program
  deriving DecidableEq, Repr

/-- A place of a format that an argument is put into. -/
structure Slot where
  flags : List Char := []
  width : Option Nat := none
  precision : Option Nat := none
  kind : Char
  /-- The format of a time. -/
  time : List Char := []
  /-- How the slot is written. -/
  source : List Char := []
  deriving Repr

/-- Something that happens while arguments are put into a format. -/
inductive Event
  | bytes (bs : List UInt8)
  | complaint (text : String)
  /-- A variable gets the number of bytes so far. -/
  | count (name : String) (n : Nat)
  deriving Repr

/-- What has happened so far, the newest first, what is left of the arguments, and the status. -/
structure Printing where
  events : List Event := []
  size : Nat := 0
  arguments : List String := []
  used : Bool := false
  status : Nat := 0
  goesOn : Bool := true

namespace Printing

def add (o : Printing) (bytes : List UInt8) : Printing :=
  { o with events := .bytes bytes :: o.events, size := o.size + bytes.length }

def complain (o : Printing) (text : String) (status : Nat) : Printing :=
  { o with events := .complaint text :: o.events, status := max o.status status }

/-- A fault that ends everything. -/
def stop (o : Printing) (text : String) (status : Nat) : Printing := { o.complain text status with goesOn := false }

/-- The next argument; a missing one is empty. -/
def next (o : Printing) : Option String × Printing :=
  match o.arguments with
  | [] => (none, { o with used := true })
  | a :: rest => (some a, { o with arguments := rest, used := true })

end Printing

/-- Bytes put at one side of a field. -/
def pad (slot : Slot) (bytes : List UInt8) : List UInt8 :=
  let missing := (slot.width.getD 0) - bytes.length
  if slot.flags.contains '-' then bytes ++ List.replicate missing 32 else List.replicate missing 32 ++ bytes

/-- A number put into its field. -/
def padNumber (slot : Slot) (sign mark digits : List Char) : List UInt8 :=
  let digits := List.replicate ((slot.precision.getD 1) - digits.length) '0' ++ digits
  let size := sign.length + mark.length + digits.length
  let zeros := slot.flags.contains '0' && !slot.flags.contains '-' && slot.precision.isNone
  let fill := if zeros then List.replicate ((slot.width.getD 0) - size) '0' else []
  pad slot (bytesOf (sign ++ mark ++ fill ++ digits))

/-- The integer at the front of an argument, and whether there are any digits, and whether all of it was used. -/
def integerOf (a : String) : Int × Bool × Bool :=
  match a.toList with
  | '\'' :: c :: _ | '"' :: c :: _ =>
    (((Encoding.byte? c).map fun b => (b.toNat : Int)).getD c.toNat, true, true)
  | cs =>
    let (negative, body) := Text.takeSign (cs.dropWhile Text.isPlainBlank)
    let (base, digits) := match body with
      | '0' :: x :: y :: rest =>
        if (x = 'x' || x = 'X') && (Text.digitIn? 16 y).isSome then (16, y :: rest) else (8, body)
      | '0' :: _ => (8, body)
      | _ => (10, body)
    let own := digits.takeWhile fun c => (Text.digitIn? base c).isSome
    let n : Int := Text.numberOf base own
    (if negative then -n else n, !own.isEmpty, own.length = digits.length)

def quotedMark (text : String) : String := "'" ++ text ++ "'"

/-- What a text would be if it were a number: its front tells its base. -/
def kindOfNumber (a : String) : String :=
  match a.toList with
  | '0' :: 'x' :: _ => "hex number"
  | '0' :: c :: _ => if Text.isAsciiDigit c then "octal number" else "number"
  | _ => "number"

/-- What is said of an argument that is no number. -/
def badNumber (printer : Printer) (a : String) (hasDigits : Bool) : String :=
  match printer with
  | .shell .bash => "printf: " ++ a ++ ": invalid " ++ kindOfNumber a
  | .shell .posix => "printf: " ++ a ++ if hasDigits then ": not completely converted" else ": expected numeric value"
  | .program =>
    "printf: " ++ quotedMark a ++ if hasDigits then ": value not completely converted" else ": expected a numeric value"

/-- What is said of a number that is too large, and the status for it. -/
def outOfRange (printer : Printer) (a : String) : String × Nat :=
  match printer with
  | .shell .bash => ("printf: warning: " ++ a ++ ": Numerical result out of range", 0)
  | .shell .posix => ("printf: " ++ a ++ ": Numerical result out of range", 1)
  | .program => ("printf: " ++ quotedMark a ++ ": Numerical result out of range", 1)

/-- The integer of the next argument. -/
def nextInteger (printer : Printer) (signed : Bool) (o : Printing) : Int × Printing :=
  match o.next with
  | (none, o) => (0, o)
  | (some a, o) =>
    let (n, hasDigits, whole) := integerOf a
    let (low, high) : Int × Int :=
      if signed then (-Int.pow 2 63, Int.pow 2 63 - 1) else (-Int.pow 2 64 + 1, Int.pow 2 64 - 1)
    let isEmpty := a = "" && printer ≠ .program
    if !whole || (!hasDigits && !isEmpty) then (n, o.complain (badNumber printer a hasDigits) 1)
    else if n < low || high < n then
      let (text, status) := outOfRange printer a
      (if n < low then (if signed then low else high) else high, o.complain text status)
    else (n, o)

/-- A number with a point put into its field. -/
def floatingText (printer : Printer) (slot : Slot) (x : Floating) : List UInt8 :=
  let sign := if x.negative then ['-'] else if slot.flags.contains '+' then ['+']
    else if slot.flags.contains ' ' then [' '] else []
  let isUpper := slot.kind.isUpper
  let shape (cs : List Char) : List Char := if isUpper then cs.map Char.toUpper else cs
  match x.special with
  | some word => pad slot (bytesOf (sign ++ shape word.toList))
  | none =>
    let places := slot.precision.getD 6
    let whole := slot.flags.contains '#'
    let digits := match slot.kind.toLower with
      | 'f' => x.fixed places whole
      | 'e' => x.scientific places whole
      | 'g' => x.general places whole
      | _ => x.hexadecimal (if printer = .shell .posix then 1 else 4)
    padNumber { slot with precision := none } sign [] (shape digits)

/-- The text between the single quotes of a program's messages, quoted for a shell only if it has to be. -/
def plainlyQuoted (text : String) : String :=
  let isPlain (c : Char) : Bool := Text.isAsciiLetter c || Text.isAsciiDigit c || "_-./:,+%@^=".toList.contains c
  if text ≠ "" && text.toList.all isPlain then text
  else if text.toList.contains '\'' && !text.toList.any (fun c => "\"$\\\x60!".toList.contains c) then
    "\"" ++ text ++ "\""
  else quotedMark (String.ofList (text.toList.flatMap fun c => if c = '\'' then "'\\''".toList else [c]))

/-- Fills a slot. `quote` shows a text as a word. -/
def fill (printer : Printer) (quote : String → String) (slot : Slot) (o : Printing) : Printing :=
  let cut (bytes : List UInt8) : List UInt8 := match slot.precision with
    | some p => bytes.take p
    | none => bytes
  let number (signed : Bool) (f : Int → List UInt8) : Printing :=
    let (n, o) := nextInteger printer signed o
    o.add (f n)
  let digits (base : Nat) (n : Nat) : List Char := if n = 0 && slot.precision = some 0 then [] else Nat.toDigits base n
  let natural (n : Int) : Nat := (n % Int.pow 2 64).toNat
  let alternate (mark : String) (n : Int) : List Char :=
    if slot.flags.contains '#' && n ≠ 0 then mark.toList else []
  let isBash := printer = .shell .bash
  let bad : Printing :=
    match printer with
    | .shell .bash =>
      let mark := slot.source.getLast?.getD '%'
      o.stop ("printf: \x60" ++ String.singleton mark ++ "': invalid format character") 1
    | .shell .posix => o.stop ("printf: " ++ String.ofList slot.source ++ ": invalid directive") 2
    | .program => o.stop ("printf: " ++ String.ofList slot.source ++ ": invalid conversion specification") 1
  match slot.kind with
  | 's' =>
    let (a, o) := o.next
    o.add (pad slot (cut (bytesOf (a.getD "").toList)))
  | 'b' =>
    let (a, o) := o.next
    let d := if printer = .shell .posix then Dialect.posix else .bash
    let (bytes, goesOn) := unescaped d .argument (a.getD "").toList
    { o.add (pad slot (cut bytes)) with goesOn }
  | 'c' =>
    let (a, o) := o.next
    o.add (pad slot (((bytesOf (a.getD "").toList) ++ [0]).take 1))
  | 'q' =>
    if printer = .shell .posix then bad
    else
      let (a, o) := o.next
      o.add (pad slot (cut (bytesOf (quote (a.getD "")).toList)))
  | 'Q' =>
    if !isBash then bad
    else
      let (a, o) := o.next
      o.add (pad slot
        (bytesOf (quote (String.ofList (Encoding.decode .utf8 (cut (bytesOf (a.getD "").toList))))).toList))
  | 'n' =>
    if !isBash then bad
    else
      let (a, o) := o.next
      { o with events := .count (a.getD "") o.size :: o.events }
  | 'T' =>
    if slot.time.isEmpty && slot.source.getLast? ≠ some 'T' then bad
    else
      let (n, o) := nextInteger printer true (if o.arguments.isEmpty then { o with arguments := ["-1"] } else o)
      let seconds := if n < 0 then Clock.start else n.toNat
      o.add (pad slot (cut (bytesOf (Clock.format seconds (if slot.time.isEmpty then "%X".toList else slot.time)))))
  | 'd' | 'i' =>
    number true fun n =>
      let sign := if n < 0 then ['-'] else if slot.flags.contains '+' then ['+']
        else if slot.flags.contains ' ' then [' '] else []
      padNumber slot sign [] (digits 10 n.natAbs)
  | 'u' => number false fun n => padNumber slot [] [] (digits 10 (natural n))
  | 'o' => number false fun n => padNumber slot [] (alternate "0" n) (digits 8 (natural n))
  | 'x' => number false fun n => padNumber slot [] (alternate "0x" n) (digits 16 (natural n))
  | 'X' => number false fun n => padNumber slot [] (alternate "0X" n) ((digits 16 (natural n)).map Char.toUpper)
  | 'f' | 'F' | 'e' | 'E' | 'g' | 'G' | 'a' | 'A' =>
    match o.next with
    | (none, o) => o.add (floatingText printer slot {})
    | (some a, o) =>
      match a.toList with
      | '\'' :: c :: _ | '"' :: c :: _ => o.add (floatingText printer slot { mantissa := c.toNat })
      | cs =>
        let bits := if printer = .shell .posix then 53 else 64
        match Floating.read bits cs with
        | some (x, []) => o.add (floatingText printer slot x)
        | some (x, _ :: _) => (o.complain (badNumber printer a true) 1).add (floatingText printer slot x)
        | none =>
          if a = "" && printer ≠ .program then o.add (floatingText printer slot {})
          else (o.complain (badNumber printer a false) 1).add (floatingText printer slot {})
  | _ => bad

/-- A width or a precision: digits, or an asterisk that takes it from the arguments. -/
def measure (printer : Printer) (cs : List Char) (o : Printing) : Option Int × List Char × Printing :=
  match cs with
  | '*' :: rest =>
    let (n, o) := nextInteger printer true o
    (some n, rest, o)
  | _ =>
    let digits := cs.takeWhile Text.isAsciiDigit
    (if digits.isEmpty then none else some (Text.numberOf 10 digits : Nat), cs.drop digits.length, o)

/-- The slot after a percent sign, and the format after it. -/
def slotAt (printer : Printer) (all : List Char) (o : Printing) : Option Slot × List Char × List Char × Printing :=
  let marks := if printer = .shell .posix then "-+ #0".toList else "-+ #0'".toList
  let flags := all.takeWhile marks.contains
  let (width, cs, o) := measure printer (all.drop flags.length) o
  let (precision, cs, o) := match cs with
    | '.' :: rest =>
      let (p, rest, o) := measure printer rest o
      (some (p.getD 0), rest, o)
    | _ => (none, cs, o)
  let cs := if printer = .shell .posix then cs else cs.dropWhile "hjlLtz".toList.contains
  let flags := if width.any fun w => decide (w < 0) then '-' :: flags else flags
  let slot (kind : Char) (time : List Char) (source : List Char) : Slot :=
    { flags, kind, time, source
      width := width.map Int.natAbs
      precision := precision.bind fun p => if p < 0 then none else some p.toNat }
  let sourceTo (rest : List Char) : List Char := '%' :: all.take (all.length - rest.length)
  match cs with
  | '(' :: rest =>
    let time := rest.takeWhile (· ≠ ')')
    match printer, rest.drop (time.length + 1) with
    | .shell .bash, 'T' :: after => (some (slot 'T' time (sourceTo after)), sourceTo after, after, o)
    | _, _ => (some (slot '(' [] (sourceTo rest)), sourceTo rest, rest, o)
  | 'T' :: rest => (some (slot '(' [] (sourceTo rest)), sourceTo rest, rest, o)
  | c :: rest => (some (slot c [] (sourceTo rest)), sourceTo rest, rest, o)
  | [] => (none, '%' :: all, [], o)

/-- The dialect whose escapes a format has. -/
def Printer.dialect : Printer → Dialect
  | .shell d => d
  | .program => .bash

/-- Goes through the format once. -/
def pass (printer : Printer) (quote : String → String) : Nat → List Char → Printing → Printing
  | 0, _, o => o
  | _ + 1, [], o => o
  | fuel + 1, '%' :: '%' :: rest, o => pass printer quote fuel rest (o.add [37])
  | fuel + 1, '%' :: rest, o =>
    match slotAt printer rest o with
    | (none, source, _, o) =>
      match printer with
      | .shell .bash => o.stop ("printf: \x60" ++ String.ofList source ++ "': missing format character") 1
      | .shell .posix => o.stop "printf: missing format character" 2
      | .program => o.stop ("printf: " ++ String.ofList source ++ ": invalid conversion specification") 1
    | (some slot, _, rest, o) =>
      let o := fill printer quote slot o
      if o.goesOn then pass printer quote fuel rest o else o
  | fuel + 1, '\\' :: rest, o =>
    match printer, rest with
    | .program, 'c' :: _ => { o with goesOn := false }
    | _, _ =>
      match escape printer.dialect .format rest with
      | some (bytes, n) => pass printer quote fuel (rest.drop n) (o.add bytes)
      | none => { o with goesOn := false }
  | fuel + 1, c :: rest, o => pass printer quote fuel rest (o.add (bytesOf [c]))

/-- Goes through the format until no argument is left, at most so often. -/
def passes (printer : Printer) (quote : String → String) (format : List Char) : Nat → Printing → Printing
  | 0, o => o
  | n + 1, o =>
    let o := pass printer quote (format.length + 1) format { o with used := false }
    if o.goesOn && o.used && !o.arguments.isEmpty then passes printer quote format n o else o

/-- What happens when arguments are put into a format. -/
def printed (printer : Printer) (quote : String → String) (format : String) (arguments : List String) : Printing :=
  let o := passes printer quote format.toList (arguments.length + 1) { arguments }
  { o with events := o.events.reverse }

/-- The bytes that are written. -/
def Printing.bytes (o : Printing) : List UInt8 :=
  o.events.flatMap fun
    | .bytes bs => bs
    | _ => []

end LintRun.Shell
