import LintRun.Text.Blank

/-!
# Value — Dates and times

Days of the Gregorian calendar, times of day, and offsets from universal time.

* `Date.fault?`, `Moment.fault?`: the first component that is out of range, in the order in which a date is
  written.
* `Date.ordinal`, `Moment.instant`: how far they are from the beginning of the calendar.
* `Date.text`, `Moment.text`: how messages show them.
-/

namespace LintRun

/-- A day of the calendar. -/
structure Date where
  year : Nat
  month : Nat
  day : Nat
  deriving DecidableEq, Repr

/-- A day with a time of day; `offset` is the distance from universal time in seconds, if it is known. -/
structure Moment where
  date : Date
  hour : Nat
  minute : Nat
  second : Nat
  microsecond : Nat
  offset : Option Int
  deriving DecidableEq, Repr

/-- The component of a date or time that no calendar has. -/
inductive CalendarFault
  | year (value : Nat)
  | month
  | day
  | hour
  | minute
  | second
  | offset (seconds : Int)
  deriving DecidableEq, Repr

def isLeap (year : Nat) : Bool := year % 4 = 0 && (year % 100 ≠ 0 || year % 400 = 0)

def daysInMonth (year month : Nat) : Nat :=
  if month = 2 then (if isLeap year then 29 else 28)
  else if month = 4 || month = 6 || month = 9 || month = 11 then 30
  else 31

def secondsPerDay : Int := 86400

/-- The number of days before a day, counted from the first day of the year 1. -/
def Date.ordinal (d : Date) : Int :=
  let before : Int := (d.year : Int) - 1
  let months : Nat := ((List.range (d.month - 1)).map fun m => daysInMonth d.year (m + 1)).foldl (· + ·) 0
  before * 365 + before.fdiv 4 - before.fdiv 100 + before.fdiv 400 + months + d.day - 1

/-- The microseconds from the beginning of the calendar, after universal time if the offset is known. -/
def Moment.instant (t : Moment) : Int :=
  let minutes : Int := (t.date.ordinal * 24 + t.hour) * 60 + t.minute
  (minutes * 60 + t.second - t.offset.getD 0) * 1000000 + t.microsecond

/-- Whether two moments are the same one; a known offset makes a moment differ from any without. -/
def Moment.isSame (t u : Moment) : Bool := t.offset.isSome = u.offset.isSome && t.instant = u.instant

def Date.fault? (d : Date) : Option CalendarFault :=
  if d.year = 0 then some (.year 0)
  else if d.month = 0 || 12 < d.month then some .month
  else if d.day = 0 || daysInMonth d.year d.month < d.day then some .day
  else none

def Moment.fault? (t : Moment) : Option CalendarFault :=
  match t.date.fault? with
  | some f => some f
  | none =>
    if 23 < t.hour then some .hour
    else if 59 < t.minute then some .minute
    else if 59 < t.second then some .second
    else none

/-- An offset is less than a day, either way. -/
def offsetFault? (seconds : Int) : Option CalendarFault :=
  if -secondsPerDay < seconds && seconds < secondsPerDay then none else some (.offset seconds)

/-- A span of time as whole days and the seconds left over, which are never negative. -/
def spanText (seconds : Int) : String :=
  let days := seconds.fdiv secondsPerDay
  let rest := seconds.fmod secondsPerDay
  let parts := (if days = 0 then [] else ["days=" ++ toString days]) ++
    (if rest = 0 then [] else ["seconds=" ++ toString rest])
  "datetime.timedelta(" ++ (if parts.isEmpty then "0" else Text.joinWith ", " parts) ++ ")"

def offsetText (seconds : Int) : String :=
  if seconds = 0 then "datetime.timezone.utc" else "datetime.timezone(" ++ spanText seconds ++ ")"

def Date.text (d : Date) : String :=
  "datetime.date(" ++ Text.joinWith ", " ([d.year, d.month, d.day].map toString) ++ ")"

/-- Seconds are left out when they and the microseconds are zero, microseconds when they are zero. -/
def Moment.text (t : Moment) : String :=
  let base := [t.date.year, t.date.month, t.date.day, t.hour, t.minute]
  let fine := if t.microsecond ≠ 0 then [t.second, t.microsecond] else if t.second ≠ 0 then [t.second] else []
  let zone := match t.offset with
    | none => []
    | some s => ["tzinfo=" ++ offsetText s]
  "datetime.datetime(" ++ Text.joinWith ", " ((base ++ fine).map toString ++ zone) ++ ")"

def CalendarFault.message : CalendarFault → String
  | .year value => "year " ++ toString value ++ " is out of range"
  | .month => "month must be in 1..12"
  | .day => "day is out of range for month"
  | .hour => "hour must be in 0..23"
  | .minute => "minute must be in 0..59"
  | .second => "second must be in 0..59"
  | .offset seconds =>
    "offset must be a timedelta strictly between -timedelta(hours=24) and timedelta(hours=24), not " ++
      spanText seconds ++ "."

end LintRun
