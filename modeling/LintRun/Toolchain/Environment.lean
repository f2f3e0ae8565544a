import LintRun.Text.Blank

/-!
# Toolchain — Environments

Variables with their values, each name once.

* `ofDump`, `dump`: an environment from and to entries `NAME=VALUE` with a NUL after each.
* `changes`: what one environment has that another has not, the shell's own variables aside.
* `overlay`: one environment laid over another.
-/

namespace LintRun

abbrev Environment := List (String × String)

namespace Environment

def get? (env : Environment) (name : String) : Option String := env.lookup name

/-- Sets a variable; one that is there keeps its place. -/
def set (env : Environment) (name value : String) : Environment :=
  match env with
  | [] => [(name, value)]
  | (n, v) :: rest => if n = name then (name, value) :: rest else (n, v) :: set rest name value

/-- Removes a variable. -/
def unset (env : Environment) (name : String) : Environment := env.filter fun (n, _) => n ≠ name

/-- Sets the variables of `upper`, in their order. -/
def overlay (env upper : Environment) : Environment :=
  upper.foldl (fun env (n, v) => env.set n v) env

/-- The variable of an entry `NAME=VALUE`; an entry without an equals sign has none. -/
def ofEntry? (entry : List Char) : Option (String × String) :=
  (Text.cutAt? '=' entry).map fun (n, v) => (String.ofList n, String.ofList v)

/-- The environment of a dump with a NUL between entries; of entries with one name the last one counts. -/
def ofDump (output : String) : Environment :=
  overlay [] ((Text.splitAt '\x00' output.toList).filterMap ofEntry?)

/-- The entries of an environment, each with a NUL after it. -/
def dump (env : Environment) : String :=
  String.ofList (env.flatMap fun (n, v) => n.toList ++ '=' :: v.toList ++ ['\x00'])

/-- The variables that a shell sets anew in every run. -/
def shellVariables : List String := ["_", "SHLVL", "PWD", "OLDPWD"]

/-- The variables of `after` that are not the shell's own and have another value than in `before`, or none there. -/
def changes (before after : Environment) : Environment :=
  after.filter fun (n, v) => !shellVariables.contains n && before.get? n ≠ some v

end Environment
end LintRun
