import LintRun.Failure.Fault
import LintRun.Json.Reader
import LintRun.Text.Utf8

/-!
# Failure — Problems

What the tool itself reports to its user, by cause. Each problem has a kind, and each kind ends a run with an
exit code of its own.

* `ProblemKind.exitCode`: the exit code.
* `Problem.kind`, `Problem.message`: the kind and the wording of each cause.
* `Failure`: a problem or a fault.
-/

namespace LintRun

inductive ProblemKind
  | general
  | usage
  | configuration
  | missingDatabase
  | environmentSetup
  | missingToolchain
  | activation
  | missingTarget
  | unsupportedFile
  | analyzer
  deriving DecidableEq, Repr

def ProblemKind.exitCode : ProblemKind → Nat
  | .missingDatabase => 3
  | .missingToolchain | .missingTarget => 2
  | .analyzer => 4
  | _ => 1

/-- The two collections of checks. -/
inductive CheckGroup
  | required
  | optional
  deriving DecidableEq, Repr

def CheckGroup.text : CheckGroup → String
  | .required => "required"
  | .optional => "optional"

/-- What a configuration key asks of its value. -/
inductive Expectation
  | nonEmptyText
  | textList
  | positiveInteger
  | positiveNumber
  | boolean
  deriving DecidableEq, Repr

def Expectation.text : Expectation → String
  | .nonEmptyText => "a non-empty string"
  | .textList => "a list of strings"
  | .positiveInteger => "a positive integer"
  | .positiveNumber => "a positive number"
  | .boolean => "a boolean"

/-- Why the bytes of a configuration file could not be taken as text. -/
inductive ReadCause
  | system (f : SystemFault)
  | encoding (f : Utf8.Fault)
  deriving DecidableEq, Repr

def ReadCause.message : ReadCause → String
  | .system f => f.message
  | .encoding f => f.message

/-- Why the text of a configuration file is no document. The fault of a YAML document has no wording of its own. -/
inductive DocumentCause
  | json (reason : Json.Reason) (line column offset : Nat)
  | yaml
  deriving DecidableEq, Repr

def DocumentCause.message : DocumentCause → String
  | .json reason line column offset =>
    reason.text ++ ": line " ++ toString line ++ " column " ++ toString column ++ " (char " ++ toString offset ++ ")"
  | .yaml => "<yaml>"

inductive ConfigProblem
  | emptyCheck (index : Nat) (group : CheckGroup)
  | missing (name : String) (place : Path)
  | unreadable (file : Path) (cause : ReadCause)
  | unparsable (file : Path) (cause : DocumentCause)
  | emptyList (name : String)
  | entryNotMapping (name : String)
  | notMapping (name : String)
  | unknownKeys (keys : List RawText)
  | badValue (key : String) (expected : Expectation) (got : Value)
  deriving Repr

def ConfigProblem.message : ConfigProblem → String
  | .emptyCheck index group =>
    "Empty check identifier at position " ++ toString index ++ " of the " ++ group.text ++ " checks"
  | .missing name place => missingConfigMessage name place
  | .unreadable file cause => "Failed to read config file " ++ file.text ++ ": " ++ cause.message
  | .unparsable file cause => "Failed to parse config file " ++ file.text ++ ": " ++ cause.message
  | .emptyList name => "Config file '" ++ name ++ "' is an empty list."
  | .entryNotMapping name => "Config file '" ++ name ++ "' must contain mappings."
  | .notMapping name => "Config file '" ++ name ++ "' must contain a mapping or a list of mappings."
  | .unknownKeys keys => "Unknown config keys: " ++ Text.joinWith ", " (keys.map RawText.shown)
  | .badValue key expected got =>
    "Config key '" ++ key ++ "' must be " ++ expected.text ++ ", got " ++ got.display

/-- Why the products directory could not be set up. -/
inductive SetupCause
  | noScript (script : Path)
  | failed (status : Int) (detail : String)
  | notStarted (f : SystemFault)
  deriving DecidableEq, Repr

def SetupCause.message : SetupCause → String
  | .noScript script => ": " ++ script.text ++ " not found"
  | .failed status detail =>
    " (return value was " ++ toString status ++ ")" ++ (if detail = "" then "" else ": " ++ detail)
  | .notStarted f => ": " ++ f.message

/-- Why no toolchain could be chosen. -/
inductive ToolchainCause
  | noneListed (product : String) (products : Path)
  | notListed (product version : String) (products : Path) (listed : List String)
  | noVersions
  deriving DecidableEq, Repr

def ToolchainCause.message : ToolchainCause → String
  | .noneListed product products =>
    "A products directory containing " ++ product ++ " isn't set up (" ++ products.text ++ ")"
  | .notListed product version products listed =>
    product ++ " " ++ version ++ " is not available from " ++ products.text ++ "; found " ++
      Text.joinWith ", " listed
  | .noVersions => "No versions to choose from"

/-- Why a file has no complete report of the analyzer. -/
inductive AnalyzerCause
  | notStarted (analyzer : String) (f : SystemFault)
  | timedOut (analyzer : String) (limit : Binary64)
  | terminated (analyzer : String) (signal : Int)
  | stated (text : String)
  deriving DecidableEq, Repr

def AnalyzerCause.message : AnalyzerCause → String
  | .notStarted analyzer f => "could not start " ++ analyzer ++ ": " ++ f.message
  | .timedOut analyzer limit => analyzer ++ " timed out after " ++ limit.generalText ++ "s"
  | .terminated analyzer signal => analyzer ++ " was terminated by signal " ++ toString signal
  | .stated text => text

/-- An analyzer failure and the file that it concerns. -/
structure AnalyzerProblem where
  file : String
  cause : AnalyzerCause
  deriving DecidableEq, Repr

def AnalyzerProblem.message (p : AnalyzerProblem) : String := p.file ++ ": " ++ p.cause.message

inductive Problem
  | usage
  | configuration (p : ConfigProblem)
  | missingDatabase (file : Path)
  | environmentSetup (products : Path) (cause : SetupCause)
  | missingToolchain (cause : ToolchainCause)
  | activation (version : String) (status : Int) (explanation : Option String)
  | missingTarget (target : String)
  | headerFile (file : Path)
  | unknownEnding (file : Path)
  | analyzer (p : AnalyzerProblem)
  | stated (kind : ProblemKind) (text : String)
  deriving Repr

def Problem.kind : Problem → ProblemKind
  | .usage => .usage
  | .configuration _ => .configuration
  | .missingDatabase _ => .missingDatabase
  | .environmentSetup _ _ => .environmentSetup
  | .missingToolchain _ => .missingToolchain
  | .activation _ _ _ => .activation
  | .missingTarget _ => .missingTarget
  | .headerFile _ | .unknownEnding _ => .unsupportedFile
  | .analyzer _ => .analyzer
  | .stated kind _ => kind

def Problem.exitCode (p : Problem) : Nat := p.kind.exitCode

/-- What a caller is told who gives too few or too many arguments. -/
def usageText : String :=
  Text.joinWith "\n"
    ["Usage: dune-tidy <full pathname of compile_commands.json for your build> <file or directory to examine>",
      "",
      "Given a file, it will apply a linter (clang-tidy) to that file.",
      "",
      "Given a directory, it will apply clang-tidy to all the source (*.cc) files",
      "in that directory as well as all of its subdirectories.",
      "",
      "compile_commands.json is a file which dune-tidy needs to forward to",
      "clang-tidy. It can be automatically produced in a cmake build; to get",
      "cmake to do this, add the following line to your CMakeLists.txt file:",
      "",
      "set(CMAKE_EXPORT_COMPILE_COMMANDS ON CACHE BOOL " ++
        "\"Set to ON to produce a compile_commands.json file which clang-tidy can use\" FORCE)",
      "",
      "More detail can be found in",
      "https://cmake.org/cmake/help/v3.5/variable/CMAKE_EXPORT_COMPILE_COMMANDS.html",
      ""]

/-- The activation of a version failed; an empty explanation counts as none. -/
def activationMessage (version : String) (status : Int) (explanation : Option String) : String :=
  match explanation.filter (· ≠ "") with
  | some text => text
  | none =>
    "There was a problem executing \"setup clang " ++ version ++ "\" (return value was " ++ toString status ++ ")"

def Problem.message : Problem → String
  | .usage => usageText
  | .configuration p => p.message
  | .missingDatabase file => "CMake-produced compile commands file " ++ file.text ++ " not found"
  | .environmentSetup products cause =>
    "There was a problem setting up the products directory " ++ products.text ++ cause.message
  | .missingToolchain cause => cause.message
  | .activation version status explanation => activationMessage version status explanation
  | .missingTarget target => "Unable to find '" ++ target ++ "'"
  | .headerFile file => "Only source files can be analyzed, not header files: " ++ file.text
  | .unknownEnding file => "File " ++ file.text ++ " has an unknown extension"
  | .analyzer p => p.message
  | .stated _ text => text

/-- An operation fails with a problem that the tool reports or with a fault that ends the run. -/
inductive Failure
  | problem (p : Problem)
  | fault (f : Fault)
  deriving Repr

def Failure.message : Failure → String
  | .problem p => p.message
  | .fault f => f.message

abbrev Outcome (α : Type) := Except Failure α

/-- Fails with a problem. -/
def report (p : Problem) : Outcome α := .error (.problem p)

/-- Fails with a fault. -/
def stop (f : Fault) : Outcome α := .error (.fault f)

end LintRun
