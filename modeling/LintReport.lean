import LintReport.Report.Json
import LintReport.Report.Run
import LintReport.Report.Checked
import LintReport.Config
import LintReport.Config.Json
import LintReport.Toml.Basic
import LintReport.Toml.Literal
import LintReport.Toml.Document
import LintReport.Config.Toml
import LintReport.Config.Load
import LintReport.Command.Arguments
import LintReport.Command.Paint
import LintReport.Command.Help
import LintReport.Command.Run
import LintReport.Main
import LintReport.Proofs.Diagnostic.Order
import LintReport.Proofs.Report.Boundary
import LintReport.Proofs.Report.Insertion
import LintReport.Proofs.Sorting
import LintReport.Proofs.Repetition
import LintReport.Proofs.Report.Reference
import LintReport.Proofs.Text.Hex
import LintReport.Proofs.Json.Literal
import LintReport.Proofs.Text.Decimal
import LintReport.Proofs.Except
import LintReport.Proofs.Json.Numeral
import LintReport.Proofs.Json.Spelling
import LintReport.Proofs.Json.Scan
import LintReport.Proofs.Json.Reader
import LintReport.Proofs.Json.Record
import LintReport.Proofs.Diagnostic.Json
import LintReport.Proofs.Report.Json
import LintReport.Proofs.Report.Recount
import LintReport.Proofs.Report.Run
import LintReport.Proofs.Command.Report
import LintReport.Proofs.Text.Quoted
import LintReport.Proofs.Text.Printable
import LintReport.Proofs.Template
import LintReport.Proofs.Message
import LintReport.Proofs.Diagnostic.Rendering
import LintReport.Proofs.Json.Grammar
import LintReport.Proofs.Report.Reordering
import LintReport.Proofs.Report.Verdict
import LintReport.Proofs.Json.Yields
import LintReport.Proofs.Json.Unread
import LintReport.Proofs.Report.Loading
import LintReport.Proofs.Report.Alike
import LintReport.Proofs.Report.Lines
import LintReport.Proofs.Report.Written
import LintReport.Proofs.Report.Ignoring
import LintReport.Proofs.Report.Addition
import LintReport.Proofs.Report.Checks
import LintReport.Proofs.Report.Again
import LintReport.Proofs.Report.Duplicates
import LintReport.Proofs.Command.Outcome
import LintReport.Proofs.Command.Status
import LintReport.Proofs.Toml.Grammar
import LintReport.Proofs.Toml.Scan
import LintReport.Proofs.Config.Settings
import LintReport.Proofs.Command.Color
import LintReport.Proofs.Command.Routes
import LintReport.Proofs.Diagnostic.Respelled
import LintReport.Proofs.Text.Trim
import LintReport.Proofs.Code.Spelling
