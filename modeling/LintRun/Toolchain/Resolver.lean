import LintRun.Failure.Problem
import LintRun.Files.Tree
import LintRun.Log.Event
import LintRun.Shell.Quoting
import LintRun.Toolchain.Basic
import LintRun.Toolchain.Listing
import LintRun.Toolchain.Version

/-!
# Toolchain — Resolution

A products directory is set up by its script, the product manager lists the versions of the product, and one of
them is set up in turn. Each of the three steps is a shell script of its own that starts from the same
environment; the last one prints the environment that it ends with.

* `Resolver.script`: the text of a step.
* `Resolver.resolve`: the toolchain, or the first step that failed. The session remembers what was run and how
  far the toolchain came.
-/

namespace LintRun

/-- What a finished shell leaves behind; its errors may not have been caught. -/
structure ShellResult where
  status : Int := 0
  output : String := ""
  errors : Option String := some ""
  deriving DecidableEq, Repr

/-- Why a shell could not be started. -/
inductive ShellFault
  | refused (f : SystemFault)
  | impossible (f : Fault)
  deriving Repr

/-- A shell answers a script and an environment; the first argument counts the scripts that it was given
before. -/
abbrev Shell := Nat → String → Environment → Except ShellFault ShellResult

/-- What is asked for, and where it is looked for. -/
structure Resolver where
  product : String := "clang"
  pinned : Option String := none
  environment : Environment := []
  shell : Shell
  tree : FileTree

namespace Resolver

/-- What a resolver has done so far: the scripts it ran, what it noted, and the toolchain it worked on last. -/
structure Session where
  scripts : List String := []
  log : List Event := []
  last : Option Toolchain := none

abbrev Act (α : Type) := ExceptT Failure (StateM Session) α

def note (e : Event) : Act Unit := modify fun s => { s with log := s.log ++ [e] }

/-- Remembers how far the toolchain has come. -/
def remember (t : Toolchain) : Act Unit := modify fun s => { s with last := some t }

def fail (p : Problem) : Act α := throw (.problem p)

def lift : Outcome α → Act α
  | .ok x => pure x
  | .error f => throw f

/-- The script that sets up a products directory. -/
def setupFile (products : Path) : Path := products.child "setup"

/-- A script that sources the setup script of a products directory and goes on with some commands. -/
def script (products : Path) (commands : List String) : String :=
  Text.joinWith "\n" ((". " ++ Shell.quoteWord (setupFile products).text ++ " 1>&2 || exit $?") :: commands)

/-- The command that lists the versions of a product. -/
def listCommand (product : String) : String := "ups list -aK+ " ++ Shell.quoteWord product

/-- The commands that set up a version and print the environment. -/
def setupCommands (product version : String) : List String :=
  ["setup " ++ Shell.quoteWord product ++ " " ++ Shell.quoteWord version ++ " 1>&2 || exit $?", "env -0"]

/-- Runs a script. -/
def run (r : Resolver) (products : Path) (commands : List String) : Act ShellResult := do
  let text := script products commands
  note (.scriptRun text)
  let before := (← get).scripts.length
  modify fun s => { s with scripts := s.scripts ++ [text] }
  match r.shell before text r.environment with
  | .ok result => pure result
  | .error (.refused f) => fail (.environmentSetup products (.notStarted f))
  | .error (.impossible f) => throw (.fault f)

/-- The first step: the setup script has to be there and to succeed. -/
def setUp (r : Resolver) (products : Path) : Act Unit := do
  match r.tree.isFile (setupFile products) with
  | .error f => throw (.fault (.system f))
  | .ok false => fail (.environmentSetup products (.noScript (setupFile products)))
  | .ok true =>
    let result ← r.run products []
    if result.status ≠ 0 then
      let detail := String.ofList (Text.trim (result.errors.getD "").toList)
      fail (.environmentSetup products (.failed result.status detail))

/-- The second step: the versions that are there, none if the listing failed. -/
def available (r : Resolver) (products : Path) : Act (List String) := do
  let result ← r.run products [listCommand r.product]
  if result.status ≠ 0 then
    note (.listingFailed result.status result.errors)
    pure []
  else pure (Listing.versions result.output)

/-- The version to set up: the pinned one if it is there, else the greatest. -/
def choose (r : Resolver) (products : Path) (versions : List String) : Outcome String :=
  if versions.isEmpty then report (.missingToolchain (.noneListed r.product products))
  else match r.pinned with
    | some v =>
      if versions.contains v then .ok v
      else report (.missingToolchain (.notListed r.product v products versions))
    | none => Version.select versions

/-- The third step: sets up a version and takes over the environment that it leaves. -/
def activate (r : Resolver) (products : Path) (version : String) : Act Toolchain := do
  let begun : Toolchain := { productsDir := products, version := some version, status := .activating }
  remember begun
  let result ← r.run products (setupCommands r.product version)
  if result.status ≠ 0 then
    remember { begun with status := .failed }
    note (.activationFailed r.product version result.errors)
    fail (.activation version result.status none)
  else
    let changes := Environment.changes r.environment (Environment.ofDump result.output)
    let active := { begun with status := .active, environment := changes }
    remember active
    note (.activated r.product version)
    pure active

/-- The toolchain of a products directory. -/
def resolve (r : Resolver) (products : Path) : Act Toolchain := do
  remember { productsDir := products }
  r.setUp products
  note (.productsSetUp products)
  let versions ← r.available products
  let version ← lift (r.choose products versions)
  note (.versionsListed r.product versions version)
  r.activate products version

end Resolver
end LintRun
