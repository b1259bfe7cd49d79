import PeppolStatistics.Calendar.Date
import PeppolStatistics.Calendar.Iso.Reader
import PeppolStatistics.Calendar.Iso.Writer
import PeppolStatistics.Calendar.Period
import PeppolStatistics.Calendar.Time
import PeppolStatistics.CommandLine.Arguments
import PeppolStatistics.CommandLine.Month
import PeppolStatistics.CommandLine.Run
import PeppolStatistics.Document.Basic
import PeppolStatistics.Document.Json
import PeppolStatistics.Failure
import PeppolStatistics.Grouping.Aggregate
import PeppolStatistics.Grouping.Buckets
import PeppolStatistics.Grouping.Counts
import PeppolStatistics.Grouping.Key
import PeppolStatistics.Identifier
import PeppolStatistics.Item.Basic
import PeppolStatistics.Item.Candidate
import PeppolStatistics.Log.Channel
import PeppolStatistics.Log.Context
import PeppolStatistics.Log.Record
import PeppolStatistics.Number.Binary64
import PeppolStatistics.Proofs.Calendar.Clock
import PeppolStatistics.Proofs.Calendar.Ordinal
import PeppolStatistics.Proofs.Calendar.Months
import PeppolStatistics.Proofs.Checks
import PeppolStatistics.Proofs.Grouping.Aggregate
import PeppolStatistics.Proofs.Grouping.Buckets
import PeppolStatistics.Proofs.Grouping.Division
import PeppolStatistics.Proofs.Grouping.Order
import PeppolStatistics.Proofs.Grouping.Tally
import PeppolStatistics.Proofs.Item.Check
import PeppolStatistics.Proofs.Report.Subset
import PeppolStatistics.Proofs.Store.Entry
import PeppolStatistics.Proofs.Store.Record
import PeppolStatistics.Proofs.Store.Runs
import PeppolStatistics.Proofs.Store.Session
import PeppolStatistics.Proofs.Text.Digits
import PeppolStatistics.Report.Basic
import PeppolStatistics.Report.Builder
import PeppolStatistics.Report.Configuration
import PeppolStatistics.Report.Subset
import PeppolStatistics.Settings.Basic
import PeppolStatistics.Settings.File
import PeppolStatistics.Store.Block
import PeppolStatistics.Store.Connection
import PeppolStatistics.Store.Engine
import PeppolStatistics.Store.Items
import PeppolStatistics.Store.Record
import PeppolStatistics.Text.Blank
import PeppolStatistics.Text.Numeral
import PeppolStatistics.Text.Printable
import PeppolStatistics.Text.Quoted
import PeppolStatistics.Value.Basic
import PeppolStatistics.Value.Dates
import PeppolStatistics.Value.Equality
import PeppolStatistics.Value.Fault
import PeppolStatistics.Value.Printer
import PeppolStatistics.Value.Render
import PeppolStatistics.Yaml.Cursor
import PeppolStatistics.Yaml.Node
import PeppolStatistics.Yaml.Node.Content
import PeppolStatistics.Yaml.Node.Reader
import PeppolStatistics.Yaml.Scalar.Block
import PeppolStatistics.Yaml.Scalar.Number
import PeppolStatistics.Yaml.Scalar.Plain
import PeppolStatistics.Yaml.Scalar.Quoted
import PeppolStatistics.Yaml.Scalar.Timestamp
import PeppolStatistics.Yaml.Tag
import PeppolStatistics.Yaml.Token
import PeppolStatistics.Yaml.Token.Reader
import PeppolStatistics.Main
import PeppolStatistics.Proofs.Calendar.Iso
import PeppolStatistics.Proofs.Identifier.Separator
import PeppolStatistics.Proofs.Item.Dictionary
import PeppolStatistics.Proofs.Grouping.Partition
import PeppolStatistics.Proofs.Log.Traced
import PeppolStatistics.Proofs.Report.Build
import PeppolStatistics.Proofs.Report.Agreement
import PeppolStatistics.Proofs.Value.Dates
import PeppolStatistics.Proofs.Report.Setters
import PeppolStatistics.Proofs.Text.WholeNumber
import PeppolStatistics.Proofs.CommandLine.Month
import PeppolStatistics.Proofs.CommandLine.Arguments
import PeppolStatistics.Proofs.CommandLine.Report
import PeppolStatistics.Proofs.Settings.Keys
import PeppolStatistics.Proofs.Document.Json
import PeppolStatistics.Proofs.Log.Blocks
import PeppolStatistics.Proofs.Document.Entries
import PeppolStatistics.Proofs.Log.Line
import PeppolStatistics.Proofs.Log.Exception
import PeppolStatistics.Proofs.Store.Block
import PeppolStatistics.Proofs.Store.Nested
import PeppolStatistics.Proofs.Store.Overlap
import PeppolStatistics.Proofs.Grouping.Rollup
import PeppolStatistics.Proofs.Report.Outcome
import PeppolStatistics.Proofs.Item.Origin
import PeppolStatistics.Proofs.Log.Configured
import PeppolStatistics.Proofs.Grouping.Reconcile
import PeppolStatistics.Proofs.Report.SubsetKeys
import PeppolStatistics.Proofs.Report.EndUsers
import PeppolStatistics.Proofs.Store.Batch
import PeppolStatistics.Proofs.Identifier.WrittenForm
import PeppolStatistics.Proofs.Identifier.Grammar
import PeppolStatistics.Proofs.Log.Failing
import PeppolStatistics.Proofs.Settings.Outcome
import PeppolStatistics.Proofs.Settings.Applied
import PeppolStatistics.Proofs.Item.Flaws
import PeppolStatistics.Proofs.Settings.Reporter
import PeppolStatistics.Proofs.Report.DateForms
import PeppolStatistics.Proofs.Value.Render
import PeppolStatistics.Proofs.Report.Repair
import PeppolStatistics.Proofs.Store.Host
import PeppolStatistics.Proofs.Store.Settled
import PeppolStatistics.Proofs.Store.Engine
