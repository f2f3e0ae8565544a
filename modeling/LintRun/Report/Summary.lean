import LintRun.Decimal.Shortest
import LintRun.Failure.Problem
import LintRun.Files.Tree
import LintRun.Json.Printer
import LintRun.Toolchain.Basic
import LintRun.Value.Display

/-!
# Report — Sections and summaries

The report of a run is a text that grows by one block for each file. A report remembers an entry for each of its
sections, and sums them up as a document.

* `Section.block`: an empty line, the header, the output without its last line ends unless nothing is left, and
  the error if there is one.
* `Report.write`: one more section.
* `Report.summary`: the summary as a value; `Report.persist` writes it to a file.
-/

namespace LintRun

/-- What the analyzer said about a file. -/
structure Section where
  file : Path
  output : String := ""
  status : Option Int := none
  error : Option AnalyzerProblem := none
  duration : Binary64 := .zero false
  deriving DecidableEq, Repr

namespace Section

def isOk (s : Section) : Bool := s.error.isNone

/-- What a header is set off with. -/
def separator : String := "========================="

/-- The line that opens the block of a file. -/
def header (file : Path) : String := separator ++ "Validating " ++ file.text ++ separator

/-- The output without the line ends at its end. -/
def body (s : Section) : String := String.ofList (Text.dropFinalNewlines s.output.toList)

/-- The parts of a block, each of which ends with a line end. -/
def parts (s : Section) : List String :=
  ["", header s.file] ++ (if s.body = "" then [] else [s.body]) ++
    (match s.error with
      | some e => ["error: " ++ e.message]
      | none => [])

/-- The text that a section adds to the report. -/
def block (s : Section) : String := Text.joinWith "\n" s.parts ++ "\n"

end Section

/-- What a report remembers of a section. -/
structure Entry where
  file : String
  status : Option Int
  duration : Binary64
  error : Option String
  deriving DecidableEq, Repr

/-- Durations are remembered in milliseconds. -/
def Section.entry (s : Section) : Entry :=
  { file := s.file.text
    status := s.status
    duration := s.duration.roundToPlaces 3
    error := s.error.map AnalyzerProblem.message }

/-- A report under way: its name and start, its text so far, and an entry for each section. -/
structure Report where
  run : String
  started : String
  text : String := ""
  entries : List Entry := []
  deriving DecidableEq, Repr

namespace Report

def write (r : Report) (s : Section) : Report :=
  { r with text := r.text ++ s.block, entries := r.entries ++ [s.entry] }

/-- An entry counts as a failure if its error says something. -/
def isFailure (e : Entry) : Bool := e.error.any (· ≠ "")

def failures (r : Report) : Nat := (r.entries.filter isFailure).length

/-- A mapping with text keys. -/
def record (fields : List (String × Value)) : Value := .map (fields.map fun (k, v) => (.str k, v))

def optionalText : Option String → Value
  | some s => .str s
  | none => .null

def optionalInt : Option Int → Value
  | some i => .int i
  | none => .null

def entryValue (e : Entry) : Value :=
  record
    [("file", .str e.file), ("returncode", optionalInt e.status), ("duration_seconds", .float e.duration),
      ("error", optionalText e.error)]

def toolchainValue (t : Toolchain) : Value :=
  record
    [("products_dir", .str t.productsDir.text), ("version", optionalText t.version),
      ("status", .str t.status.text)]

/-- The summary of the report so far. -/
def summary (r : Report) (finished : String) (toolchain : Option Toolchain) (exitCode : Option Int) : Value :=
  record
    [("run_id", .str r.run), ("started", .str r.started), ("finished", .str finished),
      ("exit_code", optionalInt exitCode), ("toolchain", (toolchain.map toolchainValue).getD .null),
      ("files_analyzed", .int r.entries.length), ("invocation_failures", .int r.failures),
      ("sections", .list (r.entries.map entryValue))]

/-- The text of a summary in a file. -/
def summaryText (summary : Value) : String := Json.print (.indented 2) summary

/-- Writes the text of a summary to a file. -/
def save (t : FileTree) (p : Path) (summary : Value) : Outcome FileTree :=
  if !summary.isShowable then stop (.scalar .tooManyToShow)
  else if FileTree.hasNul p then stop .embeddedNul
  else
    match t.write p (summaryText summary).toUTF8.toList false with
    | .error f => stop (.system f)
    | .ok t => .ok t

/-- Writes a summary to a file, in a directory that is made if it is missing; a directory that is made stays, even
if the file cannot be written. -/
def persist (t : FileTree) (p : Path) (summary : Value) : FileTree × Outcome Unit :=
  if FileTree.hasNul p.parent then (t, stop .embeddedNul)
  else
    match t.makeDirectories p.parent with
    | (t, .error f) => (t, stop (.system f))
    | (t, .ok ()) =>
      match save t p summary with
      | .error f => (t, .error f)
      | .ok t => (t, .ok ())

end Report
end LintRun
