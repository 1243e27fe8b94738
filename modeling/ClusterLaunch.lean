import ClusterLaunch.Address.Endpoint
import ClusterLaunch.Address.IPv4
import ClusterLaunch.Address.IPv6
import ClusterLaunch.Binary64.Basic
import ClusterLaunch.Binary64.Decimal
import ClusterLaunch.Binary64.Text
import ClusterLaunch.Invocation
import ClusterLaunch.Invocation.Argument
import ClusterLaunch.Invocation.Console
import ClusterLaunch.Invocation.Request
import ClusterLaunch.Invocation.Session
import ClusterLaunch.Launcher.Plan
import ClusterLaunch.Launcher.Rehearsal
import ClusterLaunch.Launcher.Run
import ClusterLaunch.Launcher.System
import ClusterLaunch.Launcher.World
import ClusterLaunch.Log
import ClusterLaunch.Payload.Arguments
import ClusterLaunch.Payload.Basic
import ClusterLaunch.Payload.Field
import ClusterLaunch.Payload.Text
import ClusterLaunch.Settings
import ClusterLaunch.Settings.Conversion
import ClusterLaunch.Settings.Document
import ClusterLaunch.Shell.Word
import ClusterLaunch.Signal.Channel
import ClusterLaunch.Signal.Scene
import ClusterLaunch.Text.Blank
import ClusterLaunch.Text.Integer
import ClusterLaunch.Text.Numeral
import ClusterLaunch.Text.Quoted
import ClusterLaunch.Text.Visible
import ClusterLaunch.Toml.Document
import ClusterLaunch.Toml.Expression
import ClusterLaunch.Toml.Layout
import ClusterLaunch.Toml.Moment
import ClusterLaunch.Toml.Number
import ClusterLaunch.Toml.Quotation
import ClusterLaunch.Toml.Reserved
import ClusterLaunch.Toml.Value
import ClusterLaunch.Topology
import ClusterLaunch.Proofs.Attempt
import ClusterLaunch.Proofs.Launcher.Planning
import ClusterLaunch.Proofs.Launcher.Sweep
import ClusterLaunch.Proofs.Launcher.Starting
import ClusterLaunch.Proofs.Launcher.Custody
import ClusterLaunch.Proofs.Launcher.Handles
import ClusterLaunch.Proofs.Payload.Row
import ClusterLaunch.Proofs.Payload.Reading
import ClusterLaunch.Proofs.Address.IPv4
import ClusterLaunch.Proofs.Address.IPv6
import ClusterLaunch.Proofs.Address.Endpoint
import ClusterLaunch.Proofs.Binary64.Decimal
import ClusterLaunch.Proofs.Binary64.Text
import ClusterLaunch.Proofs.Payload.RoundTrip
import ClusterLaunch.Proofs.Shell.Line
import ClusterLaunch.Proofs.Signal.Waiting
import ClusterLaunch.Proofs.Launcher.Course
import ClusterLaunch.Proofs.Launcher.Record
import ClusterLaunch.Proofs.Launcher.Interruption
import ClusterLaunch.Proofs.Launcher.View
import ClusterLaunch.Proofs.Topology
import ClusterLaunch.Proofs.Launcher.History
import ClusterLaunch.Proofs.Launcher.Replay
import ClusterLaunch.Proofs.Launcher.Trace
import ClusterLaunch.Proofs.Launcher.Pacing
import ClusterLaunch.Proofs.Invocation.DryRun
import ClusterLaunch.Proofs.Binary64.Value
import ClusterLaunch.Proofs.Launcher.Admission
import ClusterLaunch.Proofs.Launcher.Unnoticed
import ClusterLaunch.Proofs.Launcher.Renewal
import ClusterLaunch.Proofs.Shell.Command
import ClusterLaunch.Proofs.Launcher.Timing
import ClusterLaunch.Proofs.Signal.Moment
import ClusterLaunch.Proofs.Launcher.Exit
import ClusterLaunch.Proofs.Payload.FirstFault
import ClusterLaunch.Proofs.Invocation.Agreement
import ClusterLaunch.Proofs.Text.ByteOrder
import ClusterLaunch.Proofs.Toml.Keys
import ClusterLaunch.Proofs.Settings.Overlay
import ClusterLaunch.Proofs.Topology.Peers
import ClusterLaunch.Proofs.Launcher.Growth
import ClusterLaunch.Proofs.Launcher.Report
import ClusterLaunch.Proofs.Toml.Blank
import ClusterLaunch.Proofs.Invocation.Composition
import ClusterLaunch.Proofs.Launcher.Dismissal
import ClusterLaunch.Proofs.Payload.ClosingQuote
import ClusterLaunch.Proofs.Payload.Rounds
