import SootheClient.Lib.Lts
import SootheClient.Lib.Text
import SootheClient.Lib.Decimal
import SootheClient.Lib.Lines
import SootheClient.Lib.Scan
import SootheClient.Lib.Replay
import SootheClient.Lib.Json
import SootheClient.Lib.Members
import SootheClient.Lib.Ledger
import SootheClient.Lib.Custody
import SootheClient.Lib.Notify
import SootheClient.Lib.Duration
import SootheClient.Lib.Mailbox
import SootheClient.Frame.TurnId
import SootheClient.Frame.StreamTerminal
import SootheClient.Gate.QueryGate
import SootheClient.Gate.Flight
import SootheClient.Gate.Steps
import SootheClient.Gate.Reservation
import SootheClient.Gate.SingleFlight
import SootheClient.Gate.Ownership
import SootheClient.Gate.Cancels
import SootheClient.Gate.Callbacks
import SootheClient.Gate.Told
import SootheClient.Turn.Boundary
import SootheClient.Turn.History
import SootheClient.Pool.Store
import SootheClient.Pool.ConnectionPool
import SootheClient.Pool.Steps
import SootheClient.Pool.Slots
import SootheClient.Pool.Binding
import SootheClient.Pool.Reset
import SootheClient.Pool.Sessions
import SootheClient.Pool.Exclusive
import SootheClient.Pool.EventStream
import SootheClient.Pool.Relay
import SootheClient.Pool.StreamEnd
import SootheClient.Pool.Stop
import SootheClient.Frame.Next
import SootheClient.Frame.ChunkFilter
import SootheClient.Frame.Bare
import SootheClient.Turn.Feed
import SootheClient.Frame.EventMessage
import SootheClient.Turn.ThinkingStep
import SootheClient.Turn.Classifier
import SootheClient.Turn.Terminals
import SootheClient.Turn.Deliverable
import SootheClient.Turn.Assistant
import SootheClient.Turn.FilteredText
import SootheClient.Turn.Runner
import SootheClient.Turn.Input
import SootheClient.Turn.Attachments
import SootheClient.Sse.Broadcaster
import SootheClient.Sse.Isolation
import SootheClient.Turn.Outcome
import SootheClient.Turn.Leftovers
import SootheClient.Turn.Deltas
import SootheClient.Turn.Echo
import SootheClient.Turn.Chunks
import SootheClient.Turn.Gated
import SootheClient.Turn.Influence
import SootheClient.Frame.Inbound
import SootheClient.Frame.Wire
import SootheClient.Frame.StalePending
import SootheClient.Frame.Namespace
import SootheClient.Frame.Critical
import SootheClient.Frame.LoopId
import SootheClient.Frame.Envelope
import SootheClient.Frame.Typed
import SootheClient.Client.Shared
import SootheClient.Client.Queue
import SootheClient.Turn.DaemonErrors
import SootheClient.Client.Tasks
import SootheClient.Client.Routing
import SootheClient.Client.Steps
import SootheClient.Client.Acks
import SootheClient.Client.Handshake
import SootheClient.Client.Connect
import SootheClient.Client.Epochs
import SootheClient.Client.Payloads
import SootheClient.Client.Sequence
import SootheClient.Client.Leftovers
import SootheClient.Client.Status
import SootheClient.Client.StatusRuns
import SootheClient.Session.TurnLoop
import SootheClient.Session.TurnStream
import SootheClient.Session.Steps
import SootheClient.Session.Phases
import SootheClient.Session.Lockstep
import SootheClient.Session.Agreement
import SootheClient.Session.ForeignLoops
import SootheClient.Session.Isolation
import SootheClient.Session.FilteredText
import SootheClient.Session.Counters
import SootheClient.Turn.Encoding
import SootheClient.Session.Encoding
import SootheClient.Session.DeadConnection
import SootheClient.Session.Answer
import SootheClient.Session.Arrival
import SootheClient.Turn.Premature
import SootheClient.Session.Premature
import SootheClient.Client.Mux
import SootheClient.Client.Accounting
import SootheClient.Client.QueueSteps
import SootheClient.Client.Eviction
import SootheClient.Client.Cap
import SootheClient.Client.Requeue
import SootheClient.Client.Requests
import SootheClient.Client.Wires
import SootheClient.Client.Stranded
import SootheClient.Client.Waiters
import SootheClient.Client.Solicited
import SootheClient.Client.Forwarder
import SootheClient.Client.Delivery
import SootheClient.Cards.CardProjection
import SootheClient.Cards.Replayed
import SootheClient.Lib.Latest
import SootheClient.Heartbeat.Tracker
import SootheClient.Heartbeat.Tracking
import SootheClient.Heartbeat.Wait
import SootheClient.Client.Degraded
import SootheClient.Client.Scripts
import SootheClient.Client.Ready
import SootheClient.Client.Disconnected
import SootheClient.Lib.Script
import SootheClient.Session.Calls
import SootheClient.Session.Bootstrap
import SootheClient.Session.Lifecycle
import SootheClient.Session.Subscribed
import SootheClient.Session.OneShot
import SootheClient.Cards.Restored
import SootheClient.Turn.Course
import SootheClient.Serving.Turns
import SootheClient.Serving.Transcript
import SootheClient.Serving.Feeds
import SootheClient.Turn.Timeouts
import SootheClient.Lib.Spaced
import SootheClient.Client.Pings
import SootheClient.Session.Pooled
import SootheClient.Lib.Segments
import SootheClient.Turn.Verbosity
