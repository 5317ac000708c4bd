import LintRun.CommandLine.Program
import LintRun.Machine.Manifest
import LintRun.Main
import LintRun.Proofs.Run.ExitCode
import LintRun.Proofs.Run.Asking
import LintRun.Proofs.Run.Findings
import LintRun.Proofs.Run.Files
import LintRun.Proofs.Screening.Counts
import LintRun.Proofs.Changed.Listing
import LintRun.Proofs.Run.Restriction
import LintRun.Proofs.Registry.Selection
import LintRun.Proofs.Run.Independence
import LintRun.Proofs.Path.Resolve
import LintRun.Proofs.Registry.Spelling
import LintRun.Proofs.Run.Spelling
import LintRun.Proofs.Run.Phases
import LintRun.Proofs.Run.Accounting
import LintRun.Proofs.Registry.Construction
import LintRun.Proofs.Process.Host
import LintRun.Proofs.Run.Replies
import LintRun.Proofs.CommandLine.ExitStatus
import LintRun.Proofs.Path.Below
import LintRun.Proofs.Changed.Bytes
import LintRun.Proofs.Run.Printed
import LintRun.Proofs.CommandLine.Output
import LintRun.Proofs.Text.Reader
import LintRun.Proofs.Json.Grammar
import LintRun.Proofs.Json.Reading
import LintRun.Proofs.Run.Faithful
import LintRun.Proofs.Toml.Value
import LintRun.Proofs.Registry.Decoding
import LintRun.Proofs.Registry.Format
import LintRun.Proofs.Registry.RoundTrip
import LintRun.Proofs.Toml.Keys
import LintRun.Proofs.Path.Canonical
import LintRun.Proofs.Path.Join
import LintRun.Proofs.Tree.Collect
import LintRun.Proofs.Tree.LinkFree
import LintRun.Proofs.Screening.Subtrees
import LintRun.Proofs.Run.Console
import LintRun.Proofs.Run.Suggestion
import LintRun.Proofs.Suffixes
import LintRun.Proofs.Registry.Marking
import LintRun.Proofs.Text.Lines
import LintRun.Proofs.Changed.Lines
import LintRun.Proofs.Noise
import LintRun.Proofs.Registry.Template
import LintRun.Proofs.CommandLine.Options
import LintRun.Proofs.CommandLine.Arguments
import LintRun.Proofs.CommandLine.Rearranging
