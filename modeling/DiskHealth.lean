import DiskHealth.Attribute
import DiskHealth.Baseline
import DiskHealth.Cbor.Form
import DiskHealth.Cbor.Item
import DiskHealth.Cbor.Records
import DiskHealth.Cbor.Skip
import DiskHealth.Check.Assessment
import DiskHealth.Check.Evaluation
import DiskHealth.Command.Invocation
import DiskHealth.Command.Options
import DiskHealth.Command.Run
import DiskHealth.Decimal.Binary64
import DiskHealth.Decimal.Number
import DiskHealth.Decimal.Rounded
import DiskHealth.Decimal.Scaled
import DiskHealth.Decimal.Shortest
import DiskHealth.Discovery
import DiskHealth.Files.Access
import DiskHealth.Files.Document
import DiskHealth.Files.Path
import DiskHealth.Files.Stored
import DiskHealth.Files.Tree
import DiskHealth.Json.Form
import DiskHealth.Json.Printer
import DiskHealth.Json.Reader
import DiskHealth.Json.Records
import DiskHealth.Json.Value
import DiskHealth.Keyed
import DiskHealth.Main
import DiskHealth.Numeral
import DiskHealth.Outcome
import DiskHealth.Quantity
import DiskHealth.Rate.Key
import DiskHealth.Rate.Locked
import DiskHealth.Rate.State
import DiskHealth.Reading
import DiskHealth.Report
import DiskHealth.Settings.Environment
import DiskHealth.Settings.KeyPath
import DiskHealth.Settings.Layers
import DiskHealth.Settings.Node
import DiskHealth.SortedMap
import DiskHealth.Telemetry.Conversion
import DiskHealth.Telemetry.KeyValue
import DiskHealth.Telemetry.Parse
import DiskHealth.Telemetry.Source
import DiskHealth.Telemetry.Table
import DiskHealth.Telemetry.Tabular
import DiskHealth.Text.Blank
import DiskHealth.Text.Quoted
import DiskHealth.Text.Unprinted
import DiskHealth.Text.Utf8
import DiskHealth.Toml.Reader
import DiskHealth.Toml.Scalar
import DiskHealth.Toml.Text
import DiskHealth.Toml.Value
import DiskHealth.Proofs.Cbor.Items
import DiskHealth.Proofs.Check.Independence
import DiskHealth.Proofs.Check.Runs
import DiskHealth.Proofs.Json.Numbers
import DiskHealth.Proofs.Json.RoundTrip
import DiskHealth.Proofs.Json.Prefixes
import DiskHealth.Proofs.Text.Utf8
import DiskHealth.Proofs.Json.Forms
import DiskHealth.Proofs.Files.Path
import DiskHealth.Proofs.Files.Tree
import DiskHealth.Proofs.Files.Frame
import DiskHealth.Proofs.Files.Refusals
import DiskHealth.Proofs.Files.Stored
import DiskHealth.Proofs.Rate.History
import DiskHealth.Proofs.Rate.Sessions
import DiskHealth.Proofs.Numeral
import DiskHealth.Proofs.Text.Words
import DiskHealth.Proofs.Text.Trim
import DiskHealth.Proofs.Section.Merge
import DiskHealth.Proofs.Section.Captured
import DiskHealth.Proofs.Telemetry.Conversion
import DiskHealth.Proofs.Telemetry.Pairs
import DiskHealth.Proofs.Telemetry.Dialects
import DiskHealth.Proofs.Telemetry.Entries
import DiskHealth.Proofs.Telemetry.Attribution
import DiskHealth.Proofs.Telemetry.Faults
import DiskHealth.Proofs.Telemetry.Written
import DiskHealth.Proofs.Telemetry.Dump
import DiskHealth.Proofs.Cbor.RoundTrip
import DiskHealth.Proofs.Json.Records
import DiskHealth.Proofs.Rate.Keys
import DiskHealth.Proofs.Rate.Lock
import DiskHealth.Proofs.Files.Truncation
import DiskHealth.Proofs.Rounding
import DiskHealth.Proofs.Quantity
import DiskHealth.Proofs.Report.Lines
import DiskHealth.Proofs.Report.Absence
import DiskHealth.Proofs.Report.Agreement
import DiskHealth.Proofs.Telemetry.Shape
import DiskHealth.Proofs.Check.Discovered
import DiskHealth.Proofs.Command.Discover
import DiskHealth.Proofs.Command.Check
import DiskHealth.Proofs.Telemetry.Headings
import DiskHealth.Proofs.Telemetry.Precedence
import DiskHealth.Proofs.Telemetry.DeviceRecords
import DiskHealth.Proofs.Telemetry.Sections
import DiskHealth.Proofs.Telemetry.Canonical
