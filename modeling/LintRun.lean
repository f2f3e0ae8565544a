import LintRun.Checks.Curated
import LintRun.Toolchain.Version
import LintRun.Toolchain.Listing
import LintRun.Toolchain.Environment
import LintRun.Shell.Quoting
import LintRun.Json.Printer
import LintRun.Target.Basic
import LintRun.Config.Assign
import LintRun.Config.Source
import LintRun.Report.Summary
import LintRun.Analysis.Runner
import LintRun.Analysis.Course
import LintRun.Analysis.Session
import LintRun.Toolchain.Resolver
import LintRun.Pipeline.Basic
import LintRun.CommandLine.Lint
import LintRun.Shell.Pattern
import LintRun.Shell.Arithmetic
import LintRun.Shell.Condition
import LintRun.Shell.State
import LintRun.Shell.Expansion
import LintRun.Shell.Run
import LintRun.Shell.Host
import LintRun.Report.Stamp
import LintRun.Main
import LintRun.Proofs.Analysis.Prefix
import LintRun.Proofs.Analysis.Interruption
import LintRun.Proofs.Analysis.Session
import LintRun.Proofs.Toolchain.Resolver
import LintRun.Proofs.Toolchain.Resolution
import LintRun.Pipeline.Course
import LintRun.Proofs.Analysis.Ending
import LintRun.Proofs.Target.Resolution
import LintRun.Proofs.Target.Agreement
import LintRun.Proofs.Pipeline.Stages
import LintRun.Proofs.Pipeline.Outcome
import LintRun.Proofs.Pipeline.Completeness
import LintRun.Proofs.Pipeline.Once
import LintRun.Proofs.Failure.Outcome
import LintRun.Proofs.Toolchain.Environment
import LintRun.Proofs.Value.Order
import LintRun.Proofs.Config.Assign
import LintRun.Proofs.Config.Default
import LintRun.Proofs.Config.Tagged
import LintRun.Proofs.Checks.Catalog
import LintRun.Proofs.Checks.History
import LintRun.Proofs.CommandLine.Lint
import LintRun.Proofs.Toolchain.Status
import LintRun.Proofs.Analysis.Reference
import LintRun.Proofs.Text.Order
import LintRun.Proofs.Files.Lookup
import LintRun.Proofs.Target.Discovery
import LintRun.Proofs.Shell.Place
import LintRun.Proofs.Shell.Word
import LintRun.Proofs.Shell.Field
import LintRun.Proofs.Shell.Command
import LintRun.Proofs.Shell.Line
import LintRun.Proofs.Toolchain.Script
import LintRun.Proofs.Toolchain.Version
import LintRun.Proofs.Config.NormalForm
import LintRun.Proofs.Config.Override
import LintRun.Proofs.Toolchain.Listing
import LintRun.Proofs.CommandLine.Summary
import LintRun.Proofs.Report.Stream
