import LintRun.Text.Code
import LintRun.Value.Display

/-!
# Failure — Faults

What can stop an operation from outside its own rules: the operating system, values of the wrong kind, numbers
out of range, a time that nobody can wait, an interruption. Nobody reports a fault; it ends the run.

* `SystemFault.message`, `KindFault.message`, `ScalarFault.message`, `WaitFault.message`, `Fault.message`: the
  wording, each cause in one place.
-/

namespace LintRun

/-- The refusals of the operating system that the tool meets on its own. -/
inductive Refusal
  | noEntry
  | execFormat
  | accessDenied
  | alreadyExists
  | notDirectory
  | isDirectory
  | nameTooLong
  | tooManyLinks
  deriving DecidableEq, Repr

def Refusal.code : Refusal → Int
  | .noEntry => 2
  | .execFormat => 8
  | .accessDenied => 13
  | .alreadyExists => 17
  | .notDirectory => 20
  | .isDirectory => 21
  | .nameTooLong => 36
  | .tooManyLinks => 40

def Refusal.text : Refusal → String
  | .noEntry => "No such file or directory"
  | .execFormat => "Exec format error"
  | .accessDenied => "Permission denied"
  | .alreadyExists => "File exists"
  | .notDirectory => "Not a directory"
  | .isDirectory => "Is a directory"
  | .nameTooLong => "File name too long"
  | .tooManyLinks => "Too many levels of symbolic links"

/-- A refusal with its number, its text and the name of the file it concerns. -/
structure SystemFault where
  code : Int
  text : String
  subject : Option String
  deriving DecidableEq, Repr

def Refusal.on (r : Refusal) (subject : String) : SystemFault := ⟨r.code, r.text, some subject⟩

def SystemFault.message (f : SystemFault) : String :=
  "[Errno " ++ toString f.code ++ "] " ++ f.text ++
    match f.subject with
    | none => ""
    | some name => ": " ++ Text.quote name

/-- An operation met a value of a kind that it has no meaning for. Kinds are named as `Value.kindName` does. -/
inductive KindFault
  | notIterable (kind : String)
  | notSearchable (kind : String)
  | bytesExpected
  | notJoinable (position : Nat) (kind : String)
  | notOrdered (left right : String)
  | dayAgainstMoment
  | mixedOffsets
  | notHashable (kind : String)
  | endingNotText (kind : String)
  deriving DecidableEq, Repr

def quotedKind (kind : String) : String := "'" ++ kind ++ "'"

def KindFault.message : KindFault → String
  | .notIterable kind => quotedKind kind ++ " object is not iterable"
  | .notSearchable kind => "argument of type " ++ quotedKind kind ++ " is not iterable"
  | .bytesExpected => "a bytes-like object is required, not 'str'"
  | .notJoinable position kind =>
    "sequence item " ++ toString position ++ ": expected str instance, " ++ kind ++ " found"
  | .notOrdered left right =>
    "'<' not supported between instances of " ++ quotedKind left ++ " and " ++ quotedKind right
  | .dayAgainstMoment => "can't compare datetime.datetime to datetime.date"
  | .mixedOffsets => "can't compare offset-naive and offset-aware datetimes"
  | .notHashable kind => "unhashable type: " ++ quotedKind kind
  | .endingNotText kind => "tuple for endswith must only contain str, not " ++ kind

/-- A scalar that cannot be taken over or shown. -/
inductive ScalarFault
  | tooManyDigits (count : Nat)
  | tooManyToShow
  | tooLarge
  | notInteger (base : Nat) (text : Text.Codes)
  | notNumber (text : Text.Codes)
  /-- No digit where one has to be. -/
  | noDigit
  /-- A word that is no truth value. -/
  | notTruth (word : Text.Codes)
  /-- A text that is no date. -/
  | notDate
  | calendar (fault : CalendarFault)
  | notCharacter
  | codeTooLarge
  deriving DecidableEq, Repr

/-- So much of a text between quotes is shown of what is no integer. -/
def shownLiteral : Nat := 200

def ScalarFault.message : ScalarFault → String
  | .tooManyDigits count =>
    "Exceeds the limit (4300 digits) for integer string conversion: value has " ++ toString count ++
      " digits; use sys.set_int_max_str_digits() to increase the limit"
  | .tooManyToShow =>
    "Exceeds the limit (4300 digits) for integer string conversion; " ++
      "use sys.set_int_max_str_digits() to increase the limit"
  | .tooLarge => "int too large to convert to float"
  | .notInteger base text =>
    "invalid literal for int() with base " ++ toString base ++ ": " ++
      String.ofList ((Text.quoteCodes text).take shownLiteral)
  | .notNumber text => "could not convert string to float: " ++ String.ofList (Text.quoteCodes text)
  | .noDigit => "string index out of range"
  | .notTruth word => String.ofList (Text.quoteCodes word)
  | .notDate => "'NoneType' object has no attribute 'groupdict'"
  | .calendar fault => fault.message
  | .notCharacter => "chr() arg not in range(0x110000)"
  | .codeTooLarge => "Python int too large to convert to C int"

/-- Why nobody can wait as long as a process is given. -/
inductive WaitFault
  /-- The system takes no wait of so many thousandths of a second. -/
  | tooLong
  /-- The clock does not count so far. -/
  | beyondClock
  | infinite
  | notNumber
  deriving DecidableEq, Repr

def WaitFault.message : WaitFault → String
  | .tooLong => "timeout is too large"
  | .beyondClock => "timestamp too large to convert to C _PyTime_t"
  | .infinite => "cannot convert float infinity to integer"
  | .notNumber => "cannot convert float NaN to integer"

inductive Fault
  | system (f : SystemFault)
  | kind (f : KindFault)
  | scalar (f : ScalarFault)
  | wait (f : WaitFault)
  | embeddedNul
  /-- A variable cannot have this name. -/
  | variableName
  | missingConfig (name : String) (place : Path)
  | alreadyRun
  | interrupted
  deriving DecidableEq, Repr

/-- A configuration file that is in neither of its two places; `place` is the second. -/
def missingConfigMessage (name : String) (place : Path) : String :=
  "Config file '" ++ name ++ "' does not exist at " ++ place.text

def Fault.message : Fault → String
  | .system f => f.message
  | .kind f => f.message
  | .scalar f => f.message
  | .wait f => f.message
  | .embeddedNul => "embedded null byte"
  | .variableName => "illegal environment variable name"
  | .missingConfig name place => missingConfigMessage name place
  | .alreadyRun => "A LintPipeline can only be run once"
  | .interrupted => ""

end LintRun
