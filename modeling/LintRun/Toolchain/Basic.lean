import LintRun.Files.Path
import LintRun.Toolchain.Environment

/-!
# Toolchain — Toolchains

A version of the product that is set up, or on its way to be, with the variables that setting it up has changed.
-/

namespace LintRun

namespace Toolchain

inductive Status
  | unactivated
  | activating
  | active
  | failed
  deriving DecidableEq, Repr

def Status.text : Status → String
  | .unactivated => "unactivated"
  | .activating => "activating"
  | .active => "active"
  | .failed => "failed"

end Toolchain

structure Toolchain where
  productsDir : Path
  version : Option String := none
  status : Toolchain.Status := .unactivated
  environment : Environment := []
  deriving DecidableEq, Repr

/-- Whether the version is set up. -/
def Toolchain.isActive (t : Toolchain) : Bool := t.status = .active

end LintRun
