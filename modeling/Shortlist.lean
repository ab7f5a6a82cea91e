import Shortlist.Application.Basic
import Shortlist.Application.Documents
import Shortlist.Audit
import Shortlist.Batch.ApplicationsFile
import Shortlist.Batch.VacancyFile
import Shortlist.Calendar.Date
import Shortlist.Calendar.Instant
import Shortlist.Calendar.Reading
import Shortlist.CommandLine.Arguments
import Shortlist.CommandLine.Command
import Shortlist.CommandLine.Evaluate
import Shortlist.CommandLine.Run
import Shortlist.CommandLine.Screen
import Shortlist.CommandLine.Task
import Shortlist.Config.Basic
import Shortlist.Config.File
import Shortlist.Config.Wiring
import Shortlist.Extraction
import Shortlist.Facts
import Shortlist.Files.Path
import Shortlist.Files.Tree
import Shortlist.Identifier
import Shortlist.Json.Reader
import Shortlist.Json.Writer
import Shortlist.Log.Event
import Shortlist.Log.Line
import Shortlist.Log.Threshold
import Shortlist.Main
import Shortlist.Number.Double
import Shortlist.Number.Exact
import Shortlist.Number.Numeral
import Shortlist.Number.Shortest
import Shortlist.Pipeline.Basic
import Shortlist.Pipeline.Batch
import Shortlist.Pipeline.Session
import Shortlist.Proofs.Application
import Shortlist.Proofs.Audit
import Shortlist.Proofs.Audit.Line
import Shortlist.Proofs.Batch.Accounting
import Shortlist.Proofs.Batch.Directory
import Shortlist.Proofs.Batch.Facade
import Shortlist.Proofs.Batch.Failure
import Shortlist.Proofs.Batch.Isolation
import Shortlist.Proofs.Batch.Lines
import Shortlist.Proofs.Batch.Loading
import Shortlist.Proofs.Batch.OutputFile
import Shortlist.Proofs.Batch.Progress
import Shortlist.Proofs.Batch.Run
import Shortlist.Proofs.Batch.Silence
import Shortlist.Proofs.Batch.Survival
import Shortlist.Proofs.Calendar.DayCount
import Shortlist.Proofs.Calendar.Millis
import Shortlist.Proofs.Calendar.WrittenForm
import Shortlist.Proofs.CommandLine.Output
import Shortlist.Proofs.CommandLine.Preparation
import Shortlist.Proofs.CommandLine.Reports
import Shortlist.Proofs.CommandLine.Task
import Shortlist.Proofs.Config.Wiring
import Shortlist.Proofs.Files.Clearance
import Shortlist.Proofs.Files.Content
import Shortlist.Proofs.Files.Directories
import Shortlist.Proofs.Files.Presence
import Shortlist.Proofs.Files.Tree
import Shortlist.Proofs.Identifier
import Shortlist.Proofs.Json.Decoded
import Shortlist.Proofs.Json.Document
import Shortlist.Proofs.Json.Faithful
import Shortlist.Proofs.Json.Layout
import Shortlist.Proofs.Json.Limits
import Shortlist.Proofs.Json.Numeral
import Shortlist.Proofs.Json.RoundTrip
import Shortlist.Proofs.Json.Strings
import Shortlist.Proofs.Number.Digits
import Shortlist.Proofs.Number.Exactness
import Shortlist.Proofs.Number.Value
import Shortlist.Proofs.Outcome
import Shortlist.Proofs.Pipeline.Action
import Shortlist.Proofs.Pipeline.Atomicity
import Shortlist.Proofs.Pipeline.Backends
import Shortlist.Proofs.Pipeline.Call
import Shortlist.Proofs.Pipeline.Congruence
import Shortlist.Proofs.Pipeline.Consistency
import Shortlist.Proofs.Pipeline.Errand
import Shortlist.Proofs.Pipeline.Events
import Shortlist.Proofs.Pipeline.Extraction
import Shortlist.Proofs.Pipeline.Interleaving
import Shortlist.Proofs.Pipeline.Issuance
import Shortlist.Proofs.Pipeline.Justification
import Shortlist.Proofs.Pipeline.Ledger
import Shortlist.Proofs.Pipeline.Relevance
import Shortlist.Proofs.Pipeline.Request
import Shortlist.Proofs.Pipeline.Submission
import Shortlist.Proofs.Pipeline.Trail
import Shortlist.Proofs.Pipeline.Transparency
import Shortlist.Proofs.Pipeline.Uniqueness
import Shortlist.Proofs.Pipeline.Waiting
import Shortlist.Proofs.Rule.Description
import Shortlist.Proofs.Rule.Document
import Shortlist.Proofs.Rule.Language
import Shortlist.Proofs.Schema.Check
import Shortlist.Proofs.Schema.Completion
import Shortlist.Proofs.Screening.Chronology
import Shortlist.Proofs.Screening.Clock
import Shortlist.Proofs.Screening.Composition
import Shortlist.Proofs.Screening.Dispatch
import Shortlist.Proofs.Screening.Evaluation
import Shortlist.Proofs.Screening.Judgeable
import Shortlist.Proofs.Screening.LetterCase
import Shortlist.Proofs.Screening.Order
import Shortlist.Proofs.Screening.Reduction
import Shortlist.Proofs.Screening.RoundTrip
import Shortlist.Proofs.Store.AppendOnly
import Shortlist.Proofs.Store.Change
import Shortlist.Proofs.Store.Clearance
import Shortlist.Proofs.Store.Collection
import Shortlist.Proofs.Store.Growth
import Shortlist.Proofs.Store.Issued
import Shortlist.Proofs.Store.Legibility
import Shortlist.Proofs.Store.Memory
import Shortlist.Proofs.Store.Mirror
import Shortlist.Proofs.Store.Persistence
import Shortlist.Proofs.Store.Record
import Shortlist.Proofs.Store.RecordFile
import Shortlist.Proofs.Store.RecordId
import Shortlist.Proofs.Text.Characters
import Shortlist.Proofs.Text.LineEnds
import Shortlist.Proofs.Text.Lines
import Shortlist.Proofs.Text.Lowercase
import Shortlist.Proofs.Text.Utf8
import Shortlist.Proofs.Vacancy
import Shortlist.Proofs.Value.Entries
import Shortlist.Proofs.Value.Plain
import Shortlist.Rule.Basic
import Shortlist.Rule.Document
import Shortlist.Schema.Check
import Shortlist.Schema.File
import Shortlist.Schema.Issue
import Shortlist.Screening.Evaluation
import Shortlist.Screening.Verdict
import Shortlist.Store.Basic
import Shortlist.Store.Memory
import Shortlist.Store.Record
import Shortlist.Store.RecordFile
import Shortlist.Text.Base64
import Shortlist.Text.Basic
import Shortlist.Text.Blank
import Shortlist.Text.CharRange
import Shortlist.Text.CodeTable
import Shortlist.Text.Composition
import Shortlist.Text.DecimalDigit
import Shortlist.Text.Direction
import Shortlist.Text.Joining
import Shortlist.Text.Lines
import Shortlist.Text.Lowercase
import Shortlist.Text.Mark
import Shortlist.Text.Printable
import Shortlist.Text.Quoted
import Shortlist.Text.Utf8
import Shortlist.Vacancy
import Shortlist.Value.Basic
import Shortlist.Value.Display
import Shortlist.Value.Dump
import Shortlist.Web.Address
import Shortlist.Web.Folding
import Shortlist.Web.Host
import Shortlist.Web.Label
import Shortlist.Web.Punycode
import Shortlist.Yaml.Cursor
import Shortlist.Yaml.Document
import Shortlist.Yaml.Fault
import Shortlist.Yaml.Node
import Shortlist.Yaml.Node.Content
import Shortlist.Yaml.Node.Merge
import Shortlist.Yaml.Node.Reader
import Shortlist.Yaml.Scalar.Form
import Shortlist.Yaml.Scalar.Reading
import Shortlist.Yaml.Scalar.Time
import Shortlist.Yaml.Source
import Shortlist.Yaml.Tag
import Shortlist.Yaml.Token
import Shortlist.Yaml.Token.Lexer
import Shortlist.Yaml.Token.Property
import Shortlist.Yaml.Token.Scalar
