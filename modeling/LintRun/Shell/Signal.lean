import LintRun.Shell.Encoding
import LintRun.Text.Digit

/-!
# Shell — Signals

* `signal?`, `signalName?`: signals by their names and numbers.
* `trapName?`: what a command may be set up for.
* `signalText`: what is said of a program that a signal has ended.
-/

namespace LintRun.Shell

def signalNames : List (String × Nat) :=
  [("HUP", 1), ("INT", 2), ("QUIT", 3), ("ILL", 4), ("TRAP", 5), ("ABRT", 6), ("BUS", 7), ("FPE", 8), ("KILL", 9),
    ("USR1", 10), ("SEGV", 11), ("USR2", 12), ("PIPE", 13), ("ALRM", 14), ("TERM", 15), ("STKFLT", 16), ("CHLD", 17),
    ("CONT", 18), ("STOP", 19), ("TSTP", 20), ("TTIN", 21), ("TTOU", 22), ("URG", 23), ("XCPU", 24), ("XFSZ", 25),
    ("VTALRM", 26), ("PROF", 27), ("WINCH", 28), ("IO", 29), ("PWR", 30), ("SYS", 31)]

/-- The number of a signal that is given by its name or its number. -/
def signal? (text : String) : Option Nat :=
  let name := text.toList.map Char.toUpper
  let name := if "SIG".toList.isPrefixOf name then name.drop 3 else name
  if !name.isEmpty && name.all Text.isAsciiDigit then
    let n := Text.numberOf 10 name
    if n < 65 then some n else none
  else signalNames.lookup (String.ofList name)

def signalName? (n : Nat) : Option String := (signalNames.find? fun (_, m) => m = n).map Prod.fst

/-- The name under which a trap is kept. -/
def trapName? (d : Dialect) (text : String) : Option String :=
  let upper := String.ofList (text.toList.map Char.toUpper)
  let name := if d = .bash then upper else text
  if name = "EXIT" || text = "0" then some "EXIT"
  else if d = .bash && ["DEBUG", "ERR", "RETURN"].contains name then some name
  else match d with
    | .bash => (signal? text).bind signalName?
    | .posix =>
      if text.startsWith "SIG" then none else (signal? text).bind signalName?

/-- The signals that do nothing to a process that does not ask for them. -/
def harmlessSignals : List Nat := [0, 17, 18, 23, 28]

/-- What a shell says of a program that a signal has ended, if it says anything. -/
def signalText (signal : Nat) : Option String :=
  [(1, "Hangup"), (3, "Quit"), (4, "Illegal instruction"), (5, "Trace/breakpoint trap"), (6, "Aborted"),
    (7, "Bus error"), (8, "Floating point exception"), (9, "Killed"), (10, "User defined signal 1"),
    (11, "Segmentation fault"), (12, "User defined signal 2"), (14, "Alarm clock"), (15, "Terminated")].lookup signal

end LintRun.Shell
