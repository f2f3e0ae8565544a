import LintRun.Files.Path

/-!
# Log — Events

What a run notes in its log, by what happened.

* `Event.level`, `Event.part`, `Event.message`: how much an event matters, which part of the tool noted it, and
  its wording.
-/

namespace LintRun

inductive Level
  | debug
  | info
  | warning
  deriving DecidableEq, Repr

def Level.text : Level → String
  | .debug => "DEBUG"
  | .info => "INFO"
  | .warning => "WARNING"

/-- The parts of the tool that keep a log. -/
inductive Part
  | toolchain
  | runner
  | pipeline
  deriving DecidableEq, Repr

def Part.text : Part → String
  | .toolchain => "dune_tidy.toolchain"
  | .runner => "dune_tidy.runner"
  | .pipeline => "dune_tidy.pipeline"

inductive Event
  | scriptRun (script : String)
  | productsSetUp (products : Path)
  | listingFailed (status : Int) (errors : Option String)
  | versionsListed (product : String) (versions : List String) (selected : String)
  | activationFailed (product version : String) (errors : Option String)
  | activated (product version : String)
  | processKilled (number : Nat)
  | fileFinished (file : Path) (status : Int)
  | stateEntered (before after : String)
  | nothingFound (target : String)
  deriving DecidableEq, Repr

namespace Event

def level : Event → Level
  | .productsSetUp _ | .activated _ _ => .info
  | .nothingFound _ => .warning
  | _ => .debug

def part : Event → Part
  | .processKilled _ | .fileFinished _ _ => .runner
  | .stateEntered _ _ | .nothingFound _ => .pipeline
  | _ => .toolchain

/-- The errors of a command, which may not have been caught. -/
def errorsText (errors : Option String) : String := errors.getD "None"

def message : Event → String
  | .scriptRun script => "Running shell script:\n" ++ script
  | .productsSetUp products => "Set up the products directory " ++ products.text
  | .listingFailed status errors => "ups list exited with " ++ toString status ++ ":\n" ++ errorsText errors
  | .versionsListed product versions selected =>
    "Available " ++ product ++ " versions: " ++ Text.joinWith ", " versions ++ "; selected " ++ selected
  | .activationFailed product version errors =>
    "setup " ++ product ++ " " ++ version ++ " stderr:\n" ++ errorsText errors
  | .activated product version => "Set up " ++ product ++ " " ++ version
  | .processKilled number => "Killing analyzer process " ++ toString number
  | .fileFinished file status => file.text ++ " finished in 0.00s (exit status " ++ toString status ++ ")"
  | .stateEntered before after => "Pipeline state " ++ before ++ " -> " ++ after
  | .nothingFound target => "No source files found under " ++ target

end Event
end LintRun
