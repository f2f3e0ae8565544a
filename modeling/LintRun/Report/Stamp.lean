import LintRun.Text.Quoted

/-!
# Report — Stamps

How a report names a run and the time at which it starts and ends.

* `stamp`: a time, given in seconds since the first day of 1970, as date and time of day.
* `runName`: the name of a run, made of random bytes.
-/

namespace LintRun.Report

/-- The year and the day in it, both counted from zero, of a day counted from the first day of the year 0 of a
calendar whose years start with March. -/
def marchYear (days : Nat) : Nat × Nat :=
  let era := days / 146097
  let day := days % 146097
  let year := (day - day / 1460 + day / 36524 - day / 146096) / 365
  (era * 400 + year, day - (365 * year + year / 4 - year / 100))

/-- The date of a day counted from the first day of 1970. -/
def dateOf (days : Nat) : Nat × Nat × Nat :=
  let (year, day) := marchYear (days + 719468)
  let month := (5 * day + 2) / 153
  let dayOfMonth := day - (153 * month + 2) / 5 + 1
  if month < 10 then (year, month + 3, dayOfMonth) else (year + 1, month - 9, dayOfMonth)

/-- The number with zeros in front of it, if it is shorter than the width. -/
def padded (width n : Nat) : String :=
  let digits := Nat.toDigits 10 n
  String.ofList (List.replicate (width - digits.length) '0' ++ digits)

def stamp (seconds : Nat) : String :=
  let (year, month, day) := dateOf (seconds / 86400)
  let rest := seconds % 86400
  padded 4 year ++ "-" ++ padded 2 month ++ "-" ++ padded 2 day ++ "T" ++
    padded 2 (rest / 3600) ++ ":" ++ padded 2 (rest / 60 % 60) ++ ":" ++ padded 2 (rest % 60)

/-- The bytes in hexadecimal. -/
def runName (bytes : List UInt8) : String :=
  String.ofList (bytes.flatMap fun b => Text.hexText 2 b.toNat)

end LintRun.Report
