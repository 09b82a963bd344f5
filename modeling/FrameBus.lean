import FrameBus.Address.Basic
import FrameBus.Address.Notation
import FrameBus.CommandLine.Basic
import FrameBus.CommandLine.Gateway
import FrameBus.CommandLine.Probe
import FrameBus.Config.Basic
import FrameBus.Config.Report
import FrameBus.Config.Toml
import FrameBus.Counters
import FrameBus.Counters.Summary
import FrameBus.Daemon
import FrameBus.Decimal.Binary64
import FrameBus.Decimal.Fixed
import FrameBus.Decimal.Quotient
import FrameBus.Decimal.Shortest
import FrameBus.Error.Bus
import FrameBus.Error.Io
import FrameBus.Frame.Basic
import FrameBus.Frame.Bytes
import FrameBus.Frame.Envelope
import FrameBus.Frame.Event
import FrameBus.Gateway.Forwarding
import FrameBus.Gauges
import FrameBus.Hash.Murmur
import FrameBus.Hash.Words
import FrameBus.Hash.XX32
import FrameBus.Job.Basic
import FrameBus.Job.Files
import FrameBus.Job.Gateway
import FrameBus.Job.Probe
import FrameBus.Job.Run
import FrameBus.Link.Datagram
import FrameBus.Link.Host
import FrameBus.Link.Hub
import FrameBus.Main
import FrameBus.Network.Basic
import FrameBus.Network.Lifecycle
import FrameBus.Network.Station
import FrameBus.Network.Traffic
import FrameBus.Numeral
import FrameBus.Pace
import FrameBus.Peer
import FrameBus.PortId.Basic
import FrameBus.PortId.Notation
import FrameBus.Probe.Basic
import FrameBus.Probe.Latency
import FrameBus.Probe.Listen
import FrameBus.Probe.Payload
import FrameBus.Probe.Ping
import FrameBus.Proofs.Config.Records
import FrameBus.Proofs.Config.Validation
import FrameBus.Proofs.Config.Written
import FrameBus.Proofs.Decimal.TotalOrder
import FrameBus.Proofs.Frame.Buffer
import FrameBus.Proofs.Frame.Corruption
import FrameBus.Proofs.Frame.Fields
import FrameBus.Proofs.Frame.Headers
import FrameBus.Proofs.Frame.Relays
import FrameBus.Proofs.Frame.Spans
import FrameBus.Proofs.Frame.Wire
import FrameBus.Proofs.Gateway.Books
import FrameBus.Proofs.Gateway.Hops
import FrameBus.Proofs.Gateway.Tallies
import FrameBus.Proofs.Gateway.Trail
import FrameBus.Proofs.Hash.Mixing
import FrameBus.Proofs.Lifecycle.Changes
import FrameBus.Proofs.Lifecycle.Drops
import FrameBus.Proofs.Lifecycle.Entries
import FrameBus.Proofs.Lifecycle.Histories
import FrameBus.Proofs.Lifecycle.Members
import FrameBus.Proofs.Lifecycle.Operations
import FrameBus.Proofs.Lifecycle.Roster
import FrameBus.Proofs.Lifecycle.Runs
import FrameBus.Proofs.Lifecycle.Standing
import FrameBus.Proofs.Lifecycle.Waiting
import FrameBus.Proofs.Link.Bench
import FrameBus.Proofs.Link.Table
import FrameBus.Proofs.Log
import FrameBus.Proofs.Network.Broadcast
import FrameBus.Proofs.Network.Extends
import FrameBus.Proofs.Network.Life
import FrameBus.Proofs.Network.Marks
import FrameBus.Proofs.Network.Mesh
import FrameBus.Proofs.Network.Moves
import FrameBus.Proofs.Network.Passage
import FrameBus.Proofs.Network.Places
import FrameBus.Proofs.Network.Room
import FrameBus.Proofs.Network.Touches
import FrameBus.Proofs.Network.Traces
import FrameBus.Proofs.Network.Unicast
import FrameBus.Proofs.Notation.Addresses
import FrameBus.Proofs.Notation.Grammar
import FrameBus.Proofs.Notation.Numerals
import FrameBus.Proofs.Notation.Peers
import FrameBus.Proofs.Notation.Ports
import FrameBus.Proofs.Probe.Rendering
import FrameBus.Proofs.Probe.Statistics
import FrameBus.Proofs.Probe.Trials
import FrameBus.Proofs.Probe.Vigils
import FrameBus.Proofs.Queue.Accounts
import FrameBus.Proofs.Queue.Designs
import FrameBus.Proofs.Queue.Locks
import FrameBus.Proofs.Queue.Order
import FrameBus.Proofs.Queue.Parking
import FrameBus.Proofs.Queue.Sections
import FrameBus.Proofs.Queue.Wakeups
import FrameBus.Proofs.Registry.Adds
import FrameBus.Proofs.Registry.Calls
import FrameBus.Proofs.Registry.Changes
import FrameBus.Proofs.Registry.Conservation
import FrameBus.Proofs.Registry.Courses
import FrameBus.Proofs.Registry.Exchange
import FrameBus.Proofs.Registry.Later
import FrameBus.Proofs.Registry.Ready
import FrameBus.Proofs.Registry.Rolls
import FrameBus.Proofs.Registry.Snapshot
import FrameBus.Proofs.Registry.Targets
import FrameBus.Proofs.Route.Ends
import FrameBus.Proofs.Route.Legs
import FrameBus.Proofs.Route.Paths
import FrameBus.Proofs.Session.Desk
import FrameBus.Proofs.Session.Handlers
import FrameBus.Proofs.Session.Moves
import FrameBus.Proofs.Stop.Deadlock
import FrameBus.Proofs.Stop.Handled
import FrameBus.Proofs.Stop.Progress
import FrameBus.Proofs.Stop.Revival
import FrameBus.Proofs.Stop.Steps
import FrameBus.Proofs.Stop.Threads
import FrameBus.Proofs.Text.Utf8
import FrameBus.Proofs.Toml.Documents
import FrameBus.Proofs.Toml.Texts
import FrameBus.Proofs.Toml.Values
import FrameBus.Proofs.Value.PortIds
import FrameBus.Queue.Basic
import FrameBus.Queue.Config
import FrameBus.Queue.Threads
import FrameBus.Queue.Turnstile
import FrameBus.Registry.Basic
import FrameBus.Registry.Delivery
import FrameBus.Registry.Reaction
import FrameBus.Registry.Senders
import FrameBus.Route
import FrameBus.Session.Table
import FrameBus.Text.Blank
import FrameBus.Text.Printable
import FrameBus.Text.Quoted
import FrameBus.Text.Split
import FrameBus.Text.Utf8
import FrameBus.Toml.Reader
import FrameBus.Toml.Tree
import FrameBus.Toml.Writer
import FrameBus.Value.Basic
import FrameBus.Value.Decode
import FrameBus.Value.Json
