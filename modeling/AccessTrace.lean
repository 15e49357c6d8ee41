import AccessTrace.Binary64.Layout
import AccessTrace.Text.Grouped
import AccessTrace.Text.Blank
import AccessTrace.Text.Parts
import AccessTrace.Record
import AccessTrace.Parameter.Texts
import AccessTrace.Config.Validation
import AccessTrace.Source.Scripted
import AccessTrace.Source.Uniform
import AccessTrace.Generator
import AccessTrace.Storage.FileTree
import AccessTrace.TraceFile
import AccessTrace.Summary
import AccessTrace.Options.Arguments
import AccessTrace.Options.Overrides
import AccessTrace.Toml.Value
import AccessTrace.Toml.Number
import AccessTrace.Toml.Datetime
import AccessTrace.Toml.Canonical
import AccessTrace.ConfigFile
import AccessTrace.Json.Fault
import AccessTrace.Json.Value
import AccessTrace.Json.Quoted
import AccessTrace.Json.Printer
import AccessTrace.Json.Number
import AccessTrace.Json.Reading
import AccessTrace.Json.Decoder
import AccessTrace.RunReport
import AccessTrace.Interchange.Encoding
import AccessTrace.Interchange.Decoding
import AccessTrace.Options.Help
import AccessTrace.Program.Host
import AccessTrace.Program.Run
import AccessTrace.Main
import AccessTrace.Proofs.Generator.Schedule
import AccessTrace.Proofs.Generator.Records
import AccessTrace.Proofs.Config.Plan
import AccessTrace.Proofs.Binary64.Rounding
import AccessTrace.Proofs.Binary64.Nearest
import AccessTrace.Proofs.Binary64.Arithmetic
import AccessTrace.Proofs.Quotas.Split
import AccessTrace.Proofs.Generator.Ledger
import AccessTrace.Proofs.Quotas.Sum
import AccessTrace.Proofs.Generator.Counts
import AccessTrace.Proofs.Source.Honest
import AccessTrace.Proofs.Generator.Checked
import AccessTrace.Proofs.Generator.Safety
import AccessTrace.Proofs.Storage.Buffered
import AccessTrace.Proofs.Storage.FileTree
import AccessTrace.Proofs.TraceFile.Line
import AccessTrace.Proofs.TraceFile.RoundTrip
import AccessTrace.Proofs.Generator.Report
import AccessTrace.Proofs.Generator.Length
import AccessTrace.Proofs.TraceFile.Written
import AccessTrace.Proofs.Program.Session
import AccessTrace.Proofs.Program.Settled
import AccessTrace.Proofs.Program.Course
import AccessTrace.Proofs.Program.Stored
import AccessTrace.Proofs.Options.DryRun
import AccessTrace.Proofs.Program.DryRun
import AccessTrace.Proofs.Parameter.Numerals
import AccessTrace.Proofs.Parameter.Integers
import AccessTrace.Proofs.Parameter.Percents
import AccessTrace.Proofs.Parameter.Endings
import AccessTrace.Proofs.Config.Sources
import AccessTrace.Proofs.TraceFile.Reading
import AccessTrace.Proofs.Config.Requirements
import AccessTrace.Proofs.Quotas.Kinds
import AccessTrace.Proofs.Binary64.Decimal
import AccessTrace.Proofs.Json.Numbers
import AccessTrace.Proofs.Json.Reals
import AccessTrace.Proofs.Json.Strings
import AccessTrace.Proofs.Json.Values
import AccessTrace.Proofs.Json.Records
import AccessTrace.Proofs.Interchange.RunReport
import AccessTrace.Proofs.Interchange.PlanReport
import AccessTrace.Proofs.Parameter.Sizes
import AccessTrace.Proofs.Parameter.Grammar
import AccessTrace.Proofs.Program.SizeArguments
import AccessTrace.Proofs.Options.Overrides
import AccessTrace.Proofs.TraceFile.Grammar
import AccessTrace.Proofs.Storage.Limited
import AccessTrace.Proofs.Source.Uniform
import AccessTrace.Proofs.Config.Decoders
import AccessTrace.Proofs.Source.Scripted
import AccessTrace.Proofs.TraceFile.Verification
import AccessTrace.Proofs.Summary.Grouped
import AccessTrace.Proofs.Binary64.Fixed
import AccessTrace.Proofs.Summary.ByteSize
import AccessTrace.Proofs.Summary.Lines
