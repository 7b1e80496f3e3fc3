import TierCascade.Data.OrderedMap
import TierCascade.Decimal.Shortest
import TierCascade.Decimal.Layout
import TierCascade.Text.Blank
import TierCascade.Text.Lines
import TierCascade.Text.Duration
import TierCascade.Text.Instant
import TierCascade.Text.Columns
import TierCascade.Json.Scan
import TierCascade.Json.Fields
import TierCascade.Hash.Xxh3
import TierCascade.Tier
import TierCascade.Stage.Basic
import TierCascade.Routing
import TierCascade.Sink.Recorder
import TierCascade.Wire.Settings
import TierCascade.Health.Reporter
import TierCascade.Wire.Report
import TierCascade.Intake
import TierCascade.Plant.Wiring
import TierCascade.Plant.Schedule
import TierCascade.Agent.Api
import TierCascade.Sink.LineFile
import TierCascade.Agent.Input
import TierCascade.Console.Style
import TierCascade.Console.Grid
import TierCascade.Console.Address
import TierCascade.Console.Route
import TierCascade.Console.Replay
import TierCascade.Console.Client
import TierCascade.Console.Program
import TierCascade.Wire.Event
import TierCascade.Agent.Service
import TierCascade.Main
import TierCascade.Proofs.Maps
import TierCascade.Proofs.Stages
import TierCascade.Proofs.History
import TierCascade.Proofs.Wiring
import TierCascade.Proofs.Pools
import TierCascade.Proofs.Turn
import TierCascade.Proofs.Orderly
import TierCascade.Proofs.Settling
import TierCascade.Proofs.Accounts
import TierCascade.Proofs.Lanes
import TierCascade.Proofs.Outcomes
import TierCascade.Proofs.Replay
import TierCascade.Proofs.Spacing
import TierCascade.Proofs.Alone
import TierCascade.Proofs.Sequential
import TierCascade.Proofs.Calls
import TierCascade.Proofs.Office
import TierCascade.Proofs.Decisions
import TierCascade.Proofs.Balance
import TierCascade.Proofs.Custody
import TierCascade.Proofs.Doubles
import TierCascade.Proofs.Summary
import TierCascade.Proofs.Open
import TierCascade.Proofs.Nesting
import TierCascade.Proofs.Queues
import TierCascade.Proofs.Ownership
import TierCascade.Proofs.Metering
import TierCascade.Proofs.Flow
import TierCascade.Proofs.Progress
import TierCascade.Proofs.ShutdownComparison
import TierCascade.Proofs.Closing
import TierCascade.Proofs.Shutdown
import TierCascade.Proofs.Sorting
import TierCascade.Proofs.WorkerOutput
import TierCascade.Proofs.Sharing
import TierCascade.Proofs.Recording
import TierCascade.Proofs.Schedules
import TierCascade.Proofs.Interleaving
import TierCascade.Proofs.Attempts
import TierCascade.Proofs.Passages
import TierCascade.Proofs.Interruptions
import TierCascade.Proofs.DeliveryCost
import TierCascade.Proofs.Termination
import TierCascade.Proofs.Backpressure
import TierCascade.Proofs.Wholes
import TierCascade.Proofs.Scanning
import TierCascade.Proofs.Decoding
import TierCascade.Proofs.WireFormats
import TierCascade.Proofs.Lines
import TierCascade.Proofs.Paths
import TierCascade.Proofs.LogFiles
import TierCascade.Proofs.Readers
import TierCascade.Proofs.Dialogue
import TierCascade.Proofs.Snoozing
import TierCascade.Proofs.Weights
import TierCascade.Proofs.Retries
import TierCascade.Proofs.Handing
import TierCascade.Proofs.Boards
import TierCascade.Proofs.Overtaking
import TierCascade.Proofs.Reports
import TierCascade.Proofs.Rounds
import TierCascade.Proofs.Serial
import TierCascade.Proofs.Bench
import TierCascade.Proofs.Remembering
import TierCascade.Proofs.Anchors
import TierCascade.Proofs.Clones
import TierCascade.Proofs.PartialSettings
import TierCascade.Proofs.Magnitudes
import TierCascade.Proofs.Consistency
import TierCascade.Proofs.CanonicalText
import TierCascade.Proofs.Criteria
