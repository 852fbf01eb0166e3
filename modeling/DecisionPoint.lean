import DecisionPoint.Admission.Shell
import DecisionPoint.Audit
import DecisionPoint.Bootstrap
import DecisionPoint.Configuration.Components
import DecisionPoint.Configuration.Dotenv
import DecisionPoint.Configuration.Environment
import DecisionPoint.Configuration.Fault
import DecisionPoint.Configuration.Layer
import DecisionPoint.Configuration.Loader
import DecisionPoint.Configuration.Override
import DecisionPoint.Configuration.Schema
import DecisionPoint.Configuration.Validation
import DecisionPoint.Evaluation.Call
import DecisionPoint.Evaluation.Engine
import DecisionPoint.Evaluation.Pipeline
import DecisionPoint.Fault
import DecisionPoint.Http.Codec
import DecisionPoint.Http.Endpoint
import DecisionPoint.Http.Fault
import DecisionPoint.Http.Message
import DecisionPoint.Http.Options
import DecisionPoint.Http.Server
import DecisionPoint.Http.Status
import DecisionPoint.Http.Url
import DecisionPoint.Identifier
import DecisionPoint.Information.Point
import DecisionPoint.Information.Script
import DecisionPoint.Journal
import DecisionPoint.Json.Access
import DecisionPoint.Json.Basic
import DecisionPoint.Json.Parser
import DecisionPoint.Json.Printer
import DecisionPoint.Json.Reader
import DecisionPoint.Keyed
import DecisionPoint.Number.Binary64
import DecisionPoint.Number.Shortest
import DecisionPoint.Obligation.Handler
import DecisionPoint.Obligation.Registry
import DecisionPoint.Outcome
import DecisionPoint.Policy
import DecisionPoint.Policy.Administration
import DecisionPoint.Policy.Cache
import DecisionPoint.Policy.Gate
import DecisionPoint.Policy.RefreshLoop
import DecisionPoint.Policy.Source
import DecisionPoint.Policy.Ticker
import DecisionPoint.Progress
import DecisionPoint.Proofs.Admission.Account
import DecisionPoint.Proofs.Admission.Awaiting
import DecisionPoint.Proofs.Admission.Balance
import DecisionPoint.Proofs.Admission.Conservation
import DecisionPoint.Proofs.Admission.Crew
import DecisionPoint.Proofs.Admission.Draining
import DecisionPoint.Proofs.Admission.Handing
import DecisionPoint.Proofs.Admission.Life
import DecisionPoint.Proofs.Admission.Saturation
import DecisionPoint.Proofs.Admission.Tickets
import DecisionPoint.Proofs.Admission.WorkerTurn
import DecisionPoint.Proofs.Configuration.Acceptance
import DecisionPoint.Proofs.Evaluation.Alone
import DecisionPoint.Proofs.Evaluation.AuditLines
import DecisionPoint.Proofs.Evaluation.Completion
import DecisionPoint.Proofs.Evaluation.Consultation
import DecisionPoint.Proofs.Evaluation.Course
import DecisionPoint.Proofs.Evaluation.Enriched
import DecisionPoint.Proofs.Evaluation.FailClosed
import DecisionPoint.Proofs.Evaluation.Limits
import DecisionPoint.Proofs.Evaluation.Looks
import DecisionPoint.Proofs.Evaluation.Pinning
import DecisionPoint.Proofs.Evaluation.Serving
import DecisionPoint.Proofs.Evaluation.Settling
import DecisionPoint.Proofs.Evaluation.Trace
import DecisionPoint.Proofs.Http.Authorizing
import DecisionPoint.Proofs.Http.Codec
import DecisionPoint.Proofs.Http.Faithful
import DecisionPoint.Proofs.Http.Grammar
import DecisionPoint.Proofs.Json.Canonical
import DecisionPoint.Proofs.Json.Fields
import DecisionPoint.Proofs.Json.ReadBack
import DecisionPoint.Proofs.Json.Records
import DecisionPoint.Proofs.Keyed
import DecisionPoint.Proofs.Obligation.Consistency
import DecisionPoint.Proofs.Obligation.History
import DecisionPoint.Proofs.Obligation.Order
import DecisionPoint.Proofs.Obligation.Selection
import DecisionPoint.Proofs.Obligation.Walk
import DecisionPoint.Proofs.Request.ReadBack
import DecisionPoint.Proofs.Policy.Asking
import DecisionPoint.Proofs.Policy.Attempts
import DecisionPoint.Proofs.Policy.Coherence
import DecisionPoint.Proofs.Policy.Document
import DecisionPoint.Proofs.Policy.Drives
import DecisionPoint.Proofs.Policy.Failover
import DecisionPoint.Proofs.Policy.GateCourse
import DecisionPoint.Proofs.Policy.Keeping
import DecisionPoint.Proofs.Policy.Readiness
import DecisionPoint.Proofs.Policy.SingleFlight
import DecisionPoint.Proofs.Policy.Timetable
import DecisionPoint.Proofs.Request.Enriching
import DecisionPoint.Proofs.Request.Merging
import DecisionPoint.Proofs.Request.NamedResource
import DecisionPoint.Proofs.Request.NormalForm
import DecisionPoint.Proofs.Request.Replaying
import DecisionPoint.Proofs.Schedule.Agreement
import DecisionPoint.Proofs.Schedule.Books
import DecisionPoint.Proofs.Schedule.Closing
import DecisionPoint.Proofs.Schedule.Conduct
import DecisionPoint.Proofs.Schedule.Deeds
import DecisionPoint.Proofs.Schedule.Draining
import DecisionPoint.Proofs.Schedule.Exchange
import DecisionPoint.Proofs.Schedule.Fetching
import DecisionPoint.Proofs.Schedule.Isolation
import DecisionPoint.Proofs.Schedule.Launch
import DecisionPoint.Proofs.Schedule.Ledger
import DecisionPoint.Proofs.Schedule.LoopCalls
import DecisionPoint.Proofs.Schedule.LoopLifecycle
import DecisionPoint.Proofs.Schedule.Looping
import DecisionPoint.Proofs.Schedule.Loops
import DecisionPoint.Proofs.Schedule.Orderly
import DecisionPoint.Proofs.Schedule.Overlap
import DecisionPoint.Proofs.Schedule.Readiness
import DecisionPoint.Proofs.Schedule.Recording
import DecisionPoint.Proofs.Schedule.Responses
import DecisionPoint.Proofs.Schedule.Sequence
import DecisionPoint.Proofs.Schedule.Shutdown
import DecisionPoint.Proofs.Schedule.Sound
import DecisionPoint.Proofs.Schedule.Timetable
import DecisionPoint.Proofs.Schedule.World
import DecisionPoint.Proofs.Service.Deeds
import DecisionPoint.Proofs.Service.Loops
import DecisionPoint.Proofs.Service.Moves
import DecisionPoint.Proofs.Service.Recording
import DecisionPoint.Proofs.Service.Spares
import DecisionPoint.Proofs.Service.Starting
import DecisionPoint.Proofs.Service.Stopping
import DecisionPoint.Proofs.Successes
import DecisionPoint.Proofs.Telemetry.Entries
import DecisionPoint.Proofs.Text.ByteOrder
import DecisionPoint.Proofs.Text.Spans
import DecisionPoint.Proofs.Time.Calendar
import DecisionPoint.Proofs.Time.ReadBack
import DecisionPoint.Rehearsal.Cast
import DecisionPoint.Rehearsal.Closing
import DecisionPoint.Rehearsal.Collaborators
import DecisionPoint.Rehearsal.Condition
import DecisionPoint.Rehearsal.Layers
import DecisionPoint.Rehearsal.Reading
import DecisionPoint.Rehearsal.Scene
import DecisionPoint.Rehearsal.Serving
import DecisionPoint.Rehearsal.Settings
import DecisionPoint.Rehearsal.Telling
import DecisionPoint.Request.Attribute
import DecisionPoint.Request.Basic
import DecisionPoint.Request.Builder
import DecisionPoint.Request.Enrichment
import DecisionPoint.Result
import DecisionPoint.Schedule.Activity
import DecisionPoint.Schedule.Clock
import DecisionPoint.Service.Basic
import DecisionPoint.Service.Evaluating
import DecisionPoint.Service.Lifecycle
import DecisionPoint.Service.Requests
import DecisionPoint.ServiceStatus
import DecisionPoint.Shutdown.Connections
import DecisionPoint.Shutdown.Signal
import DecisionPoint.SocketAddress
import DecisionPoint.Telemetry.Fault
import DecisionPoint.Telemetry.Filter
import DecisionPoint.Telemetry.Metrics
import DecisionPoint.Telemetry.Options
import DecisionPoint.Telemetry.Pattern
import DecisionPoint.Telemetry.Setup
import DecisionPoint.Text.Blank
import DecisionPoint.Text.Casing
import DecisionPoint.Text.Hex
import DecisionPoint.Text.Hidden
import DecisionPoint.Text.Letters
import DecisionPoint.Text.Quoted
import DecisionPoint.Text.Sigma
import DecisionPoint.Time.Calendar
import DecisionPoint.Time.Instant
import DecisionPoint.Time.Span
import DecisionPoint.Toml.Choice
import DecisionPoint.Toml.Number
import DecisionPoint.Toml.Parser
import DecisionPoint.Toml.Text
import DecisionPoint.Toml.Tree
import DecisionPoint.Proofs.Policy.ReadBack
import DecisionPoint.Proofs.Result.ReadBack
import DecisionPoint.Proofs.Json.Partial
import DecisionPoint.Proofs.Configuration.Partial
import DecisionPoint.Proofs.Configuration.Values
import DecisionPoint.Proofs.Configuration.Overriding
import DecisionPoint.Proofs.Configuration.Dotenv
import DecisionPoint.Proofs.Configuration.Layering
import DecisionPoint.Proofs.Shutdown.Traffic
import DecisionPoint.Proofs.Shutdown.Waking
