import StressBatch.Batch
import StressBatch.Config.Basic
import StressBatch.Config.Loading
import StressBatch.Config.Shape
import StressBatch.CpuLayout
import StressBatch.Directive
import StressBatch.Document
import StressBatch.Dotenv
import StressBatch.Embedded
import StressBatch.ErrorReport
import StressBatch.Failure
import StressBatch.Host
import StressBatch.Host.Programs
import StressBatch.Host.Shell
import StressBatch.Job
import StressBatch.Launch
import StressBatch.Link.Client
import StressBatch.Link.Endpoint
import StressBatch.Link.Envelope
import StressBatch.Link.Failure
import StressBatch.Link.Network
import StressBatch.Link.Payload
import StressBatch.Link.Server
import StressBatch.Link.Service
import StressBatch.Main
import StressBatch.Msgpack.Reading
import StressBatch.Msgpack.Record
import StressBatch.Msgpack.Value
import StressBatch.Panic
import StressBatch.Process
import StressBatch.RacyCounter
import StressBatch.Registry
import StressBatch.ResultLog
import StressBatch.Scheduler.Run
import StressBatch.Scheduler.Session
import StressBatch.Scheduler.Startup
import StressBatch.Scheduler.State
import StressBatch.Scheduler.Step
import StressBatch.Scheduler.Summary
import StressBatch.SortedMap
import StressBatch.StressWorker
import StressBatch.TestResult
import StressBatch.Text.Alphanumeric
import StressBatch.Text.Blank
import StressBatch.Text.Decimal
import StressBatch.Text.Hex
import StressBatch.Text.Lines
import StressBatch.Text.Printable
import StressBatch.Text.Quoted
import StressBatch.Text.Utf8
import StressBatch.Time.Calendar
import StressBatch.Time.Span
import StressBatch.Time.Timestamp
import StressBatch.Toml.Parser
import StressBatch.Toml.Scalar
import StressBatch.Toml.Text
import StressBatch.Toml.Tree
import StressBatch.Worker
import StressBatch.Proofs.CpuLayout
import StressBatch.Proofs.Scheduler.Transition
import StressBatch.Proofs.Scheduler.Harvest
import StressBatch.Proofs.Scheduler.Inversion
import StressBatch.Proofs.Scheduler.Accounting
import StressBatch.Proofs.Scheduler.Results
import StressBatch.Proofs.Scheduler.Ledger
import StressBatch.Proofs.Scheduler.OneResult
import StressBatch.Proofs.Scheduler.Bystander
import StressBatch.Proofs.Scheduler.Conduct
import StressBatch.Proofs.Msgpack.Heads
import StressBatch.Proofs.Msgpack.Reading
import StressBatch.Proofs.Msgpack.Record
import StressBatch.Proofs.Link.Payload
import StressBatch.Proofs.Text.Decimal
import StressBatch.Proofs.Time.Calendar
import StressBatch.Proofs.Time.Timestamp
import StressBatch.Proofs.Link.Envelope
import StressBatch.Proofs.Link.Remote
import StressBatch.Proofs.Worker.Life
import StressBatch.Proofs.Scheduler.Acquisition
import StressBatch.Proofs.Scheduler.Dealings
import StressBatch.Proofs.Scheduler.Exchange
import StressBatch.Proofs.Link.RoundTrip
import StressBatch.Proofs.Link.Handling
import StressBatch.Link.Switchboard
import StressBatch.Proofs.Link.Switchboard
import StressBatch.Proofs.Embedded
import StressBatch.Proofs.Scheduler.Modes
import StressBatch.Proofs.Scheduler.Isolation
import StressBatch.Proofs.Scheduler.Outcome
import StressBatch.Proofs.Scheduler.Violations
import StressBatch.Proofs.Scheduler.Order
import StressBatch.Proofs.Scheduler.Ownership
import StressBatch.Proofs.Link.Versions
import StressBatch.Proofs.Link.AnyForm
import StressBatch.Proofs.Scheduler.Completion
import StressBatch.Proofs.Scheduler.Faults
import StressBatch.Proofs.Batch
import StressBatch.Proofs.Worker.Report
import StressBatch.Proofs.Worker.Closing
import StressBatch.Proofs.Scheduler.Refusal
import StressBatch.Proofs.Scheduler.ReapOrder
import StressBatch.Proofs.CpuLayout.Allocator
import StressBatch.Proofs.Directive.Agreement
import StressBatch.Proofs.Directive.Text
import StressBatch.Proofs.Dotenv
import StressBatch.Proofs.Config.Layering
import StressBatch.Proofs.TestResult
import StressBatch.Proofs.RacyCounter
import StressBatch.Proofs.Registry
import StressBatch.Proofs.Scheduler.Holder
import StressBatch.Proofs.TestResult.Accumulation
import StressBatch.Proofs.Capture
import StressBatch.Proofs.Launch
import StressBatch.Proofs.Link.Endpoint
