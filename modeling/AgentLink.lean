import AgentLink.Number.Binary64
import AgentLink.Number.Shortest
import AgentLink.Number.Notation
import AgentLink.Text.Utf8
import AgentLink.Text.Blank
import AgentLink.Text.Quote
import AgentLink.Json.Value
import AgentLink.Json.Writer
import AgentLink.Json.Fault
import AgentLink.Json.Reader
import AgentLink.Failure
import AgentLink.Wire.Message
import AgentLink.Json.Shape
import AgentLink.Wire.MessageReader
import AgentLink.Wire.Lines
import AgentLink.Time
import AgentLink.Retry
import AgentLink.Conversation.Event
import AgentLink.Conversation.Update
import AgentLink.Permission
import AgentLink.Report
import AgentLink.Host.FileSystem
import AgentLink.Toml.Syntax
import AgentLink.Toml.Lexical
import AgentLink.Toml.Scalar
import AgentLink.Toml.Build
import AgentLink.Toml.Parser
import AgentLink.Toml.Render
import AgentLink.Toml.Decode
import AgentLink.Config
import AgentLink.Concurrency.Program
import AgentLink.Concurrency.Channel
import AgentLink.Concurrency.Scheduler
import AgentLink.Connection.State
import AgentLink.Client.State
import AgentLink.Host.Memory
import AgentLink.Connection.Tasks
import AgentLink.Conversation.Prompt
import AgentLink.Client.Calls
import AgentLink.Bench.Step
import AgentLink.Bench.Run
import AgentLink.Agent.Script
import AgentLink.Agent.Program
import AgentLink.Process.Streams
import AgentLink.Shell.State
import AgentLink.Process.Signal
import AgentLink.Shell.Fields
import AgentLink.Host.Environment
import AgentLink.Shell.Syntax
import AgentLink.Shell.Token
import AgentLink.Shell.Parse
import AgentLink.Utility.Integer
import AgentLink.Utility.Echo
import AgentLink.Utility.Floating
import AgentLink.Utility.Printf
import AgentLink.Utility.Test
import AgentLink.Text.CharClass
import AgentLink.Utility.Outcome
import AgentLink.Utility.Head
import AgentLink.Utility.Count
import AgentLink.Utility.Sort
import AgentLink.Utility.Translate
import AgentLink.Utility.Cut
import AgentLink.Utility.Sequence
import AgentLink.Utility.BaseName
import AgentLink.Utility.Regex
import AgentLink.Utility.RegexSyntax
import AgentLink.Utility.Grep
import AgentLink.Shell.Pattern
import AgentLink.Shell.Arith
import AgentLink.Shell.Pathname
import AgentLink.Shell.Run
import AgentLink.Shell.Invoke
import AgentLink.Agent.Tool
import AgentLink.Agent.Launch
import AgentLink.Bench.Probe
import AgentLink.Cli.Options
import AgentLink.Cli.Run
import AgentLink.Main
import AgentLink.Proofs.Interleaving
import AgentLink.Proofs.Registry
import AgentLink.Proofs.TableSteps
import AgentLink.Proofs.LinkTasks
import AgentLink.Proofs.Footprints
import AgentLink.Proofs.HookTasks
import AgentLink.Proofs.Correlation
import AgentLink.Proofs.TurnEvents
import AgentLink.Proofs.Phases
import AgentLink.Proofs.TurnGuarantee
import AgentLink.Proofs.ClientTasks
import AgentLink.Proofs.TurnCalls
import AgentLink.Proofs.TurnExclusion
import AgentLink.Proofs.TurnStream
import AgentLink.Proofs.LineFraming
import AgentLink.Proofs.ScanReads
import AgentLink.Proofs.JsonRoundTrip
import AgentLink.Proofs.Utf8RoundTrip
import AgentLink.Proofs.RecordReads
import AgentLink.Proofs.EnvelopeRoundTrip
import AgentLink.Proofs.QueueRuns
import AgentLink.Proofs.RequestReplies
import AgentLink.Proofs.PermissionSlots
import AgentLink.Proofs.SlotRely
import AgentLink.Proofs.WaitPhases
import AgentLink.Proofs.InitLock
import AgentLink.Proofs.Initialize
import AgentLink.Proofs.UpdateReading
import AgentLink.Proofs.Disconnect
import AgentLink.Proofs.Observation
import AgentLink.Proofs.Diagnostics
import AgentLink.Proofs.FrameCutting
import AgentLink.Proofs.AgentOutput
import AgentLink.Proofs.Backoff
import AgentLink.Proofs.RetrySchedule
import AgentLink.Proofs.RetryRuns
import AgentLink.Proofs.PermissionChoice
