import ModuleBus.Address
import ModuleBus.Bench.Basic
import ModuleBus.Bench.Desk
import ModuleBus.Bench.Handlers
import ModuleBus.Bench.Net
import ModuleBus.Bytes
import ModuleBus.Calendar
import ModuleBus.Client
import ModuleBus.Clock
import ModuleBus.Controller.Accounts
import ModuleBus.Controller.Board
import ModuleBus.Controller.Coordinator
import ModuleBus.Controller.IndexedTable
import ModuleBus.Controller.Isolation
import ModuleBus.Controller.Ledger
import ModuleBus.Controller.ModuleTable
import ModuleBus.Controller.Routine
import ModuleBus.Decimal.Shortest
import ModuleBus.Dispatch.Call
import ModuleBus.Dispatch.Dispatcher
import ModuleBus.Dispatch.Endpoint
import ModuleBus.Dispatch.Error
import ModuleBus.Dispatch.Listener
import ModuleBus.Dispatch.Pending
import ModuleBus.Dispatch.Server
import ModuleBus.EnergyMessage
import ModuleBus.ErrorCode
import ModuleBus.Handshake
import ModuleBus.Json.Basic
import ModuleBus.Json.Reader
import ModuleBus.Json.Writer
import ModuleBus.Link
import ModuleBus.Main
import ModuleBus.Message
import ModuleBus.Packet.Encoder
import ModuleBus.Packet.Header
import ModuleBus.Packet.Reassembler
import ModuleBus.Position
import ModuleBus.Proofs.Accounts.Acceptance
import ModuleBus.Proofs.Accounts.Billing
import ModuleBus.Proofs.Accounts.Charges
import ModuleBus.Proofs.Accounts.Conservation
import ModuleBus.Proofs.Accounts.Ledger
import ModuleBus.Proofs.Accounts.Refusals
import ModuleBus.Proofs.Accounts.Reports
import ModuleBus.Proofs.Accounts.Totals
import ModuleBus.Proofs.Accounts.Uplinks
import ModuleBus.Proofs.Accounts.Usage
import ModuleBus.Proofs.Accounts.WaterLevel
import ModuleBus.Proofs.Controller.AddressIndex
import ModuleBus.Proofs.Controller.Answers
import ModuleBus.Proofs.Controller.Blackouts
import ModuleBus.Proofs.Controller.Budgets
import ModuleBus.Proofs.Controller.Connections
import ModuleBus.Proofs.Controller.Declarations
import ModuleBus.Proofs.Controller.Downlinks
import ModuleBus.Proofs.Controller.Events
import ModuleBus.Proofs.Controller.Fairness
import ModuleBus.Proofs.Controller.Flags
import ModuleBus.Proofs.Controller.Footprint
import ModuleBus.Proofs.Controller.KeyChanges
import ModuleBus.Proofs.Controller.KeyTable
import ModuleBus.Proofs.Controller.Keys
import ModuleBus.Proofs.Controller.Labels
import ModuleBus.Proofs.Controller.Listings
import ModuleBus.Proofs.Controller.Overstays
import ModuleBus.Proofs.Controller.Power
import ModuleBus.Proofs.Controller.PowerLosses
import ModuleBus.Proofs.Controller.PrivateBus
import ModuleBus.Proofs.Controller.Rails
import ModuleBus.Proofs.Controller.Reboots
import ModuleBus.Proofs.Controller.Requests
import ModuleBus.Proofs.Controller.Routine
import ModuleBus.Proofs.Controller.Run
import ModuleBus.Proofs.Controller.Sleeps
import ModuleBus.Proofs.Controller.Switchboard
import ModuleBus.Proofs.Controller.SwitchedOff
import ModuleBus.Proofs.Controller.Watchdog
import ModuleBus.Proofs.Dispatch.Answers
import ModuleBus.Proofs.Dispatch.AtMostOnce
import ModuleBus.Proofs.Dispatch.Attendants
import ModuleBus.Proofs.Dispatch.CallOrder
import ModuleBus.Proofs.Dispatch.Callers
import ModuleBus.Proofs.Dispatch.Deadlines
import ModuleBus.Proofs.Dispatch.Delivery
import ModuleBus.Proofs.Dispatch.Dockets
import ModuleBus.Proofs.Dispatch.Keys
import ModuleBus.Proofs.Dispatch.LateReplies
import ModuleBus.Proofs.Dispatch.Listening
import ModuleBus.Proofs.Dispatch.Minding
import ModuleBus.Proofs.Dispatch.Pending
import ModuleBus.Proofs.Dispatch.Reception
import ModuleBus.Proofs.Dispatch.Senders
import ModuleBus.Proofs.Dispatch.Sending
import ModuleBus.Proofs.Handshake.Agreement
import ModuleBus.Proofs.Handshake.Attempts
import ModuleBus.Proofs.Handshake.Minding
import ModuleBus.Proofs.Handshake.Pairing
import ModuleBus.Proofs.Handshake.Stages
import ModuleBus.Proofs.Handshake.Steps
import ModuleBus.Proofs.Packet.Fragments
import ModuleBus.Proofs.Packet.Header
import ModuleBus.Proofs.Packet.Interleaving
import ModuleBus.Proofs.Packet.Legacy
import ModuleBus.Proofs.Packet.Streams
import ModuleBus.Proofs.Packet.Transmission
import ModuleBus.Proofs.Scene.Check
import ModuleBus.Proofs.Simulation.ColdStarts
import ModuleBus.Proofs.Simulation.Memories
import ModuleBus.Proofs.Simulation.Residents
import ModuleBus.Proofs.Simulation.Turns
import ModuleBus.Proofs.Storage.Records
import ModuleBus.Proofs.Text.Lossy
import ModuleBus.Proofs.Text.Topics
import ModuleBus.Proofs.Text.Utf8
import ModuleBus.Report.Basic
import ModuleBus.Report.Bench
import ModuleBus.Report.Errors
import ModuleBus.Report.Names
import ModuleBus.Report.Run
import ModuleBus.Report.Scene
import ModuleBus.Report.Values
import ModuleBus.Request
import ModuleBus.Scene.Basic
import ModuleBus.Scene.Reader
import ModuleBus.Seal.Authenticated
import ModuleBus.Seal.Cipher
import ModuleBus.Seal.Curve
import ModuleBus.Seal.Digest
import ModuleBus.Seal.Suite
import ModuleBus.Settings.Basic
import ModuleBus.Settings.Reader
import ModuleBus.Simulation.Backplane
import ModuleBus.Simulation.Job
import ModuleBus.Simulation.Post
import ModuleBus.Simulation.Run
import ModuleBus.Simulation.Summary
import ModuleBus.Slot
import ModuleBus.SlotState
import ModuleBus.Storage.LogStore
import ModuleBus.Storage.Record
import ModuleBus.Tally
import ModuleBus.Text.Basic
import ModuleBus.Text.Utf8
import ModuleBus.Toml.Basic
import ModuleBus.Toml.Reader
import ModuleBus.Topic
import ModuleBus.Proofs.Storage.Archive
import ModuleBus.Proofs.Storage.AppendOnly
import ModuleBus.Proofs.Packet.Layouts
