import AlarmMonitor.Alarm.Key
import AlarmMonitor.Alarm.Record
import AlarmMonitor.Backend.Reply
import AlarmMonitor.Backend.Script
import AlarmMonitor.CommandLine.Arguments
import AlarmMonitor.CommandLine.Flag
import AlarmMonitor.CommandLine.Session
import AlarmMonitor.Http.Address
import AlarmMonitor.Http.Body
import AlarmMonitor.Http.Client
import AlarmMonitor.Http.Domain
import AlarmMonitor.Http.Domain.Form
import AlarmMonitor.Http.Domain.Label
import AlarmMonitor.Http.Failure
import AlarmMonitor.Http.Host
import AlarmMonitor.Http.Percent
import AlarmMonitor.Http.Punycode
import AlarmMonitor.Http.Status
import AlarmMonitor.Http.Url.Basic
import AlarmMonitor.Http.Url.Fault
import AlarmMonitor.Http.Url.Path
import AlarmMonitor.Http.Url.Reader
import AlarmMonitor.Install.Cell
import AlarmMonitor.Install.Check
import AlarmMonitor.Install.Notation
import AlarmMonitor.Install.Report
import AlarmMonitor.Install.Status
import AlarmMonitor.Json.Lexer
import AlarmMonitor.Json.Printer
import AlarmMonitor.Json.Reader
import AlarmMonitor.Json.Token
import AlarmMonitor.Json.Value
import AlarmMonitor.Log
import AlarmMonitor.Log.Filter
import AlarmMonitor.Log.Pattern
import AlarmMonitor.Main
import AlarmMonitor.Number.Binary
import AlarmMonitor.Number.Double
import AlarmMonitor.Number.Literal
import AlarmMonitor.Number.Shortest
import AlarmMonitor.Number.Single
import AlarmMonitor.Number.Word
import AlarmMonitor.Polling.Config
import AlarmMonitor.Polling.Cycle
import AlarmMonitor.Polling.History
import AlarmMonitor.Polling.Outcome
import AlarmMonitor.Polling.State
import AlarmMonitor.Polling.System
import AlarmMonitor.Polling.Task
import AlarmMonitor.Proofs.Alarm.Keys
import AlarmMonitor.Proofs.Alarm.Order
import AlarmMonitor.Proofs.Alarm.Rendering
import AlarmMonitor.Proofs.Alarm.Wire
import AlarmMonitor.Proofs.Http.Blank
import AlarmMonitor.Proofs.Http.Join
import AlarmMonitor.Proofs.Http.Path
import AlarmMonitor.Proofs.Http.Spelling
import AlarmMonitor.Proofs.Install.Reports
import AlarmMonitor.Proofs.Install.Skip
import AlarmMonitor.Proofs.Install.Subscriptions
import AlarmMonitor.Proofs.Json.Complete
import AlarmMonitor.Proofs.Json.Document
import AlarmMonitor.Proofs.Json.Doubles
import AlarmMonitor.Proofs.Json.Lexing
import AlarmMonitor.Proofs.Json.Reading
import AlarmMonitor.Proofs.Json.Rearrangement
import AlarmMonitor.Proofs.Json.RoundTrip
import AlarmMonitor.Proofs.Json.Unambiguous
import AlarmMonitor.Proofs.Json.Value
import AlarmMonitor.Proofs.Number.Digits
import AlarmMonitor.Proofs.Number.Grid
import AlarmMonitor.Proofs.Number.Loose
import AlarmMonitor.Proofs.Number.Numeral
import AlarmMonitor.Proofs.Number.Quick
import AlarmMonitor.Proofs.Number.Rounding
import AlarmMonitor.Proofs.Polling.Abandonment
import AlarmMonitor.Proofs.Polling.Accounting
import AlarmMonitor.Proofs.Polling.Call
import AlarmMonitor.Proofs.Polling.Cancellation
import AlarmMonitor.Proofs.Polling.Configuration
import AlarmMonitor.Proofs.Polling.Cycle
import AlarmMonitor.Proofs.Polling.Debounce
import AlarmMonitor.Proofs.Polling.Deed
import AlarmMonitor.Proofs.Polling.Delivery
import AlarmMonitor.Proofs.Polling.History
import AlarmMonitor.Proofs.Polling.Ledger
import AlarmMonitor.Proofs.Polling.Leftover
import AlarmMonitor.Proofs.Polling.Lifecycle
import AlarmMonitor.Proofs.Polling.Log
import AlarmMonitor.Proofs.Polling.Mirror
import AlarmMonitor.Proofs.Polling.Novelty
import AlarmMonitor.Proofs.Polling.Piece
import AlarmMonitor.Proofs.Polling.Places
import AlarmMonitor.Proofs.Polling.Progress
import AlarmMonitor.Proofs.Polling.Record
import AlarmMonitor.Proofs.Polling.Renumber
import AlarmMonitor.Proofs.Polling.Request
import AlarmMonitor.Proofs.Polling.Rest
import AlarmMonitor.Proofs.Polling.Restart
import AlarmMonitor.Proofs.Polling.Retention
import AlarmMonitor.Proofs.Polling.Rhythm
import AlarmMonitor.Proofs.Polling.Role
import AlarmMonitor.Proofs.Polling.Run
import AlarmMonitor.Proofs.Polling.Schedule
import AlarmMonitor.Proofs.Polling.Section
import AlarmMonitor.Proofs.Polling.Staleness
import AlarmMonitor.Proofs.Polling.Stretch
import AlarmMonitor.Proofs.Polling.Surfacing
import AlarmMonitor.Proofs.Polling.Tenure
import AlarmMonitor.Proofs.Polling.Timekeeper
import AlarmMonitor.Proofs.Polling.Traceless
import AlarmMonitor.Proofs.Polling.Transition
import AlarmMonitor.Proofs.Settings.Floors
import AlarmMonitor.Proofs.Settings.Layers
import AlarmMonitor.Proofs.Settings.Spelling
import AlarmMonitor.Proofs.Settings.Verbatim
import AlarmMonitor.Proofs.Text.Split
import AlarmMonitor.Proofs.Watch.Agreement
import AlarmMonitor.Proofs.Watch.Course
import AlarmMonitor.Proofs.Watch.Crew
import AlarmMonitor.Proofs.Watch.LastKnown
import AlarmMonitor.Proofs.Watch.Piece
import AlarmMonitor.Proofs.Watch.Reports
import AlarmMonitor.Proofs.Watch.Resets
import AlarmMonitor.Proofs.Watch.Service
import AlarmMonitor.Proofs.Watch.Shutdown
import AlarmMonitor.Proofs.Watch.Transition
import AlarmMonitor.Settings.Basic
import AlarmMonitor.Settings.Data
import AlarmMonitor.Settings.Environment
import AlarmMonitor.Settings.File
import AlarmMonitor.Settings.Format
import AlarmMonitor.Settings.Ini
import AlarmMonitor.Settings.Json5
import AlarmMonitor.Settings.Load
import AlarmMonitor.Settings.Path
import AlarmMonitor.Settings.Ron.Document
import AlarmMonitor.Settings.Ron.Name
import AlarmMonitor.Settings.Ron.Quoted
import AlarmMonitor.Settings.Ron.Scalar
import AlarmMonitor.Settings.Toml.Document
import AlarmMonitor.Settings.Toml.Quoted
import AlarmMonitor.Settings.Toml.Scalar
import AlarmMonitor.Settings.Toml.Table
import AlarmMonitor.Settings.Tree
import AlarmMonitor.Settings.Value
import AlarmMonitor.Settings.Wiring
import AlarmMonitor.Settings.Yaml.Block
import AlarmMonitor.Settings.Yaml.Cursor
import AlarmMonitor.Settings.Yaml.Document
import AlarmMonitor.Settings.Yaml.Layout
import AlarmMonitor.Settings.Yaml.Node
import AlarmMonitor.Settings.Yaml.Plain
import AlarmMonitor.Settings.Yaml.Quoted
import AlarmMonitor.Settings.Yaml.Token
import AlarmMonitor.Simulation.Board
import AlarmMonitor.Simulation.Scenario
import AlarmMonitor.Simulation.Scheduler
import AlarmMonitor.Simulation.World
import AlarmMonitor.Sink.Channel
import AlarmMonitor.Sink.Terminal
import AlarmMonitor.Text.Blank
import AlarmMonitor.Text.CombiningClass
import AlarmMonitor.Text.Composition
import AlarmMonitor.Text.Direction
import AlarmMonitor.Text.Joining
import AlarmMonitor.Text.Letter
import AlarmMonitor.Text.Mark
import AlarmMonitor.Text.Printable
import AlarmMonitor.Text.Quoted
import AlarmMonitor.Text.Range
import AlarmMonitor.Text.Split
import AlarmMonitor.Text.Utf8
import AlarmMonitor.Text.Word
import AlarmMonitor.Time.Duration
import AlarmMonitor.Watch.System
import AlarmMonitor.Watch.Task
import AlarmMonitor.Proofs.Backend.Replay
import AlarmMonitor.Proofs.Install.Members
import AlarmMonitor.Proofs.Json.Printable
import AlarmMonitor.Proofs.Polling.Texts
import AlarmMonitor.Proofs.Sink.Capacity
import AlarmMonitor.Proofs.Sink.Lines
