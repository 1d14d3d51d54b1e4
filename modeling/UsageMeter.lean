import UsageMeter.Bounds
import UsageMeter.Cli.Amount
import UsageMeter.Cli.Arguments
import UsageMeter.Cli.Detect
import UsageMeter.Cli.Paint
import UsageMeter.Cli.Program
import UsageMeter.Cli.Report
import UsageMeter.Cli.Sampling
import UsageMeter.Cli.Table
import UsageMeter.Decimal.Binary64
import UsageMeter.Decimal.Reading
import UsageMeter.Decimal.Shortest
import UsageMeter.Decimal.Style
import UsageMeter.Event
import UsageMeter.Exposition
import UsageMeter.Figure
import UsageMeter.FileTree
import UsageMeter.Files
import UsageMeter.Gauge
import UsageMeter.Health
import UsageMeter.Ini.Document
import UsageMeter.Json.Document
import UsageMeter.Json.Record
import UsageMeter.Json.Scan
import UsageMeter.Json.Value
import UsageMeter.Json5.Document
import UsageMeter.Json5.Scalar
import UsageMeter.Kernel.CpuMax
import UsageMeter.Kernel.CpuStat
import UsageMeter.Kernel.CpuTicks
import UsageMeter.Kernel.MemoryPages
import UsageMeter.Kernel.ProcessStat
import UsageMeter.Kernel.SingleValue
import UsageMeter.Main
import UsageMeter.Moment
import UsageMeter.Monitor
import UsageMeter.Percentage
import UsageMeter.Probes
import UsageMeter.ProcessFiles
import UsageMeter.Proofs.Account
import UsageMeter.Proofs.Allotments
import UsageMeter.Proofs.CarriedFigures
import UsageMeter.Proofs.CounterFiles
import UsageMeter.Proofs.Course
import UsageMeter.Proofs.DetectedTiers
import UsageMeter.Proofs.Doubles
import UsageMeter.Proofs.Fallback
import UsageMeter.Proofs.GaugeFamilies
import UsageMeter.Proofs.GroupFiles
import UsageMeter.Proofs.History
import UsageMeter.Proofs.Interval
import UsageMeter.Proofs.JsonObjects
import UsageMeter.Proofs.JsonScan
import UsageMeter.Proofs.MergedIntervals
import UsageMeter.Proofs.MetricText
import UsageMeter.Proofs.NearestDoubles
import UsageMeter.Proofs.NumberTexts
import UsageMeter.Proofs.Numerals
import UsageMeter.Proofs.Outcome
import UsageMeter.Proofs.Pacing
import UsageMeter.Proofs.PrintedJson
import UsageMeter.Proofs.PrintedLines
import UsageMeter.Proofs.PrintedRows
import UsageMeter.Proofs.ProcessGauges
import UsageMeter.Proofs.Provenance
import UsageMeter.Proofs.ReadBack
import UsageMeter.Proofs.Readiness
import UsageMeter.Proofs.Recovery
import UsageMeter.Proofs.Refresh
import UsageMeter.Proofs.Resets
import UsageMeter.Proofs.SampleLine
import UsageMeter.Proofs.Sampling
import UsageMeter.Proofs.Sharing
import UsageMeter.Proofs.ShortestDigits
import UsageMeter.Proofs.Shown
import UsageMeter.Proofs.Shutdown
import UsageMeter.Proofs.StatusLine
import UsageMeter.Proofs.TakenTexts
import UsageMeter.Proofs.TickReadings
import UsageMeter.Proofs.TickSums
import UsageMeter.Proofs.Transitions
import UsageMeter.Proofs.Variables
import UsageMeter.Proofs.VerdictTexts
import UsageMeter.Proofs.Verdicts
import UsageMeter.Proofs.WordSums
import UsageMeter.Proofs.Words
import UsageMeter.ReadError
import UsageMeter.Refresher
import UsageMeter.Registry
import UsageMeter.Report
import UsageMeter.Ron.Document
import UsageMeter.Ron.Scalar
import UsageMeter.Sample
import UsageMeter.Schedule
import UsageMeter.SelfMetrics
import UsageMeter.Settings.Agent
import UsageMeter.Settings.Conversion
import UsageMeter.Settings.Document
import UsageMeter.Settings.Layer
import UsageMeter.Sharing
import UsageMeter.Snapshot
import UsageMeter.Source.Allotment
import UsageMeter.Source.CgroupV1
import UsageMeter.Source.CgroupV2
import UsageMeter.Source.Chain
import UsageMeter.Source.ProcStat
import UsageMeter.Store
import UsageMeter.Text.Blank
import UsageMeter.Text.Case
import UsageMeter.Text.Columns
import UsageMeter.Text.Listing
import UsageMeter.Text.Marks
import UsageMeter.Text.Numeral
import UsageMeter.Text.Quoted
import UsageMeter.Text.Utf8
import UsageMeter.Tier
import UsageMeter.Time.Calendar
import UsageMeter.Time.Reading
import UsageMeter.Time.Span
import UsageMeter.Time.Timestamp
import UsageMeter.Timeline
import UsageMeter.Toml.Document
import UsageMeter.Toml.Scalar
import UsageMeter.Toml.Strings
import UsageMeter.Toml.Table
import UsageMeter.WordSum
import UsageMeter.Yaml.Block
import UsageMeter.Yaml.Document
import UsageMeter.Yaml.Flow
import UsageMeter.Yaml.Node
import UsageMeter.Yaml.Place
import UsageMeter.Yaml.Scalar
