import LintRun.Failure.Problem

/-!
# Config — Settings

The settings of one run, with a default for each, and the keys under which a configuration names them.

* `Config.Key.ofText?`, `Config.Key.text`: the keys and their texts.
* `Config.dotted`: endings of file names are kept with their dot.
-/

namespace LintRun

/-- The settings of one run. -/
structure Config where
  productsDir : Path := .ofString "/cvmfs/fermilab.opensciencegrid.org/products/larsoft"
  product : RawText := "clang"
  version : Option RawText := none
  analyzer : RawText := "clang-tidy"
  headerFilter : RawText := ".*"
  sourceEndings : List RawText := [".cc"]
  headerEndings : List RawText := [".hh"]
  jobs : Nat := 1
  timeout : Option Binary64 := none
  failFast : Bool := false
  extraRequired : List RawText := []
  extraOptional : List RawText := []
  tags : List RawText := []
  deriving DecidableEq, Repr

namespace Config

/-- What a configuration may set. -/
inductive Key
  | productsDir
  | product
  | version
  | analyzer
  | headerFilter
  | sourceEndings
  | headerEndings
  | jobs
  | timeout
  | failFast
  | extraRequired
  | extraOptional
  | tags
  deriving DecidableEq, Repr

namespace Key

def text : Key → String
  | .productsDir => "products_dir"
  | .product => "toolchain_product"
  | .version => "clang_version"
  | .analyzer => "analyzer"
  | .headerFilter => "header_filter"
  | .sourceEndings => "source_extensions"
  | .headerEndings => "header_extensions"
  | .jobs => "jobs"
  | .timeout => "timeout_seconds"
  | .failFast => "fail_fast"
  | .extraRequired => "extra_required_checks"
  | .extraOptional => "extra_optional_checks"
  | .tags => "tags"

/-- All keys, in the order in which settings are listed. -/
def all : List Key :=
  [.productsDir, .product, .version, .analyzer, .headerFilter, .sourceEndings, .headerEndings, .jobs, .timeout,
    .failFast, .extraRequired, .extraOptional, .tags]

def ofText? (text : String) : Option Key := all.find? fun k => k.text = text

end Key

/-- An ending with a dot in front, which it may have already. -/
def dotted (ending : RawText) : RawText := if ending.startsWith "." then ending else .plain "." ++ ending

def texts (items : List RawText) : Value := .tuple (items.map .ofText)

/-- The value of a setting. -/
def get (c : Config) : Key → Value
  | .productsDir => .path c.productsDir
  | .product => .ofText c.product
  | .version => (c.version.map Value.ofText).getD .null
  | .analyzer => .ofText c.analyzer
  | .headerFilter => .ofText c.headerFilter
  | .sourceEndings => texts c.sourceEndings
  | .headerEndings => texts c.headerEndings
  | .jobs => .int c.jobs
  | .timeout => (c.timeout.map Value.float).getD .null
  | .failFast => .bool c.failFast
  | .extraRequired => texts c.extraRequired
  | .extraOptional => texts c.extraOptional
  | .tags => texts c.tags

end Config
end LintRun
