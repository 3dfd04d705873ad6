import HeadUnit.Address
import HeadUnit.Association
import HeadUnit.Bench.Clock
import HeadUnit.Bench.Play
import HeadUnit.Bench.Scenario
import HeadUnit.Bench.Script
import HeadUnit.Bench.Step
import HeadUnit.Bench.World
import HeadUnit.Bus
import HeadUnit.Codes
import HeadUnit.CommandLine
import HeadUnit.CommandLine.Usage
import HeadUnit.Daemon
import HeadUnit.Decimal.Shortest
import HeadUnit.Event
import HeadUnit.Fault
import HeadUnit.Json
import HeadUnit.Lifecycle.Manager
import HeadUnit.Lifecycle.Phase
import HeadUnit.Log
import HeadUnit.Log.Line
import HeadUnit.Log.Threshold
import HeadUnit.Main
import HeadUnit.Metrics
import HeadUnit.Outcome
import HeadUnit.Provision
import HeadUnit.Registry
import HeadUnit.Roster
import HeadUnit.Service.Boot
import HeadUnit.Service.Config
import HeadUnit.Service.Model
import HeadUnit.Service.Operation
import HeadUnit.Service.Startup
import HeadUnit.Service.Step
import HeadUnit.Service.Wiring
import HeadUnit.Sessions
import HeadUnit.Settings
import HeadUnit.Settings.Sources
import HeadUnit.State.Repository
import HeadUnit.State.Snapshot
import HeadUnit.State.Store
import HeadUnit.Switching.Command
import HeadUnit.Switching.Desk
import HeadUnit.Text.Integer
import HeadUnit.Text.Path
import HeadUnit.Text.Printable
import HeadUnit.Text.Quoted
import HeadUnit.Time.Duration
import HeadUnit.Time.Stamp
import HeadUnit.Toml.Document
import HeadUnit.Toml.Fill
import HeadUnit.Toml.Literal
import HeadUnit.Toml.Names
import HeadUnit.Toml.Value
import HeadUnit.Transaction
import HeadUnit.Trip
import HeadUnit.User
import HeadUnit.Vehicle.Message
import HeadUnit.Vehicle.Simulator
import HeadUnit.Version
import HeadUnit.Watcher
import HeadUnit.Proofs.Switching.Run
import HeadUnit.Proofs.Switching.Change
import HeadUnit.Proofs.Switching.Resolution
import HeadUnit.Proofs.Switching.Provenance
import HeadUnit.Proofs.Switching.Numbering
import HeadUnit.Proofs.Switching.Tracking
import HeadUnit.Proofs.Switching.Approval
import HeadUnit.Proofs.Switching.Acknowledgment
import HeadUnit.Proofs.Switching.AnswerOrder
import HeadUnit.Proofs.Bus.Run
import HeadUnit.Proofs.Bus.Change
import HeadUnit.Proofs.Bus.Registry
import HeadUnit.Proofs.Bus.Delivery
import HeadUnit.Proofs.Bus.Handles
import HeadUnit.Proofs.Service.Run
import HeadUnit.Proofs.Service.Follow
import HeadUnit.Proofs.Service.Change
import HeadUnit.Proofs.Service.Desks
import HeadUnit.Proofs.Bus.Attachment
import HeadUnit.Proofs.Service.News
import HeadUnit.Proofs.Service.Unlocking
import HeadUnit.Proofs.Registry.Eviction
import HeadUnit.Proofs.Registry.Invariant
import HeadUnit.Proofs.Registry.Restart
import HeadUnit.Proofs.State.Document
import HeadUnit.Proofs.State.RoundTrip
import HeadUnit.Proofs.Service.Books
import HeadUnit.Proofs.Service.Deals
import HeadUnit.Proofs.Service.Persistence
import HeadUnit.Proofs.Service.Calm
import HeadUnit.Proofs.Service.PowerCycle
import HeadUnit.Proofs.Service.Listed
import HeadUnit.Proofs.Service.Removal
import HeadUnit.Proofs.Switching.Heading
import HeadUnit.Proofs.Service.Foreground
import HeadUnit.Proofs.Notes
import HeadUnit.Proofs.Service.Scene
import HeadUnit.Proofs.Service.Control
import HeadUnit.Proofs.Service.Happening
import HeadUnit.Proofs.Service.Order
import HeadUnit.Proofs.Service.Pending
import HeadUnit.Proofs.Service.Plugins
import HeadUnit.Proofs.Service.Vacancy
import HeadUnit.Proofs.Service.Serving
import HeadUnit.Proofs.Service.Starting
import HeadUnit.Proofs.Switching.Gauge
import HeadUnit.Proofs.Service.Gauge
import HeadUnit.Proofs.Service.Replies
import HeadUnit.Proofs.Service.Isolation
import HeadUnit.Proofs.Bus.Line
import HeadUnit.Proofs.Switching.Line
import HeadUnit.Proofs.Switching.Holding
import HeadUnit.Proofs.Service.Line
import HeadUnit.Proofs.Service.Legacy
import HeadUnit.Proofs.Sessions.Replay
import HeadUnit.Proofs.Service.Updates
import HeadUnit.Proofs.Switching.Trim
import HeadUnit.Proofs.Service.Tuned
import HeadUnit.Proofs.Service.Tunables
import HeadUnit.Proofs.Service.Availability
import HeadUnit.Proofs.Time.Stamp
import HeadUnit.Proofs.State.Fields
import HeadUnit.Proofs.Registry.Selection
import HeadUnit.Proofs.Lifecycle.Manager
import HeadUnit.Proofs.Lifecycle.Run
import HeadUnit.Proofs.Lifecycle.Belonging
import HeadUnit.Proofs.Lifecycle.Shutdown
import HeadUnit.Proofs.Registry.Entry
import HeadUnit.Proofs.Roster.Records
import HeadUnit.Proofs.Provision.Removal
import HeadUnit.Proofs.Provision.Run
import HeadUnit.Proofs.Provision.Creation
import HeadUnit.Proofs.Service.Departure
import HeadUnit.Proofs.Bus.Ledger
import HeadUnit.Proofs.Bus.Drain
import HeadUnit.Proofs.Trip.Race
import HeadUnit.Proofs.Vehicle.Slots
import HeadUnit.Proofs.Vehicle.Memory
import HeadUnit.Proofs.Service.Dialogue
import HeadUnit.Proofs.Service.Associations
import HeadUnit.Proofs.Service.Undisturbed
import HeadUnit.Proofs.Service.Restarting
import HeadUnit.Proofs.Settings.Precedence
import HeadUnit.Proofs.Lifecycle.Path
import HeadUnit.Proofs.Service.Front
import HeadUnit.Proofs.Service.Alone
import HeadUnit.Proofs.Service.Seeding
import HeadUnit.Proofs.Service.Busy
import HeadUnit.Proofs.Service.Resting
import HeadUnit.Proofs.Service.Booting
import HeadUnit.Proofs.Watcher.Pending
import HeadUnit.Proofs.Watcher.Debounce
