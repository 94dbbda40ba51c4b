import SootheClient.Frame.Inbound

/-!
# The shared state of a client

All connections of a client share one `Shared`. An `Update` is one atomic access of it: a store to
an atomic, or a critical section of one of its locks. `mark_disconnected`, `close` and `reconnect`
are sequences of updates between which other tasks may run.
-/

namespace SootheClient.Client

open SootheClient.Frame

/-- Clean or unclean connection loss. -/
inductive DisconnectCause where
  | unclean
  | clean
  deriving DecidableEq, Repr

/-- An error of the daemon. -/
structure DaemonError where
  code : ℤ
  message : String
  data : Option Json := none

/-- The errors that a connection attempt returns. -/
inductive Error where
  /-- The dial of an attempt failed. -/
  | connection (attempt : ℕ)
  | timeout (operation duration : String)
  | daemon (err : DaemonError)
  | protocol (text : String)

/-- What the client hands to the writer task of a connection. -/
inductive Outgoing where
  | connectionInit
  | pong
  /-- The answer to a WebSocket ping. -/
  | rawPong
  | deliveryAck (loopId : String) (seq : ℕ)
  | disconnect

/-- The state that the tasks of a client share. A connection is named by its number; a queued frame
carries the number of the connection it came from, which the code does not record. -/
structure Shared where
  maxInbound : ℕ := DEFAULT_INBOUND_MAX_SIZE
  /-- The sender to the writer task of a connection. -/
  writeTx : Option ℕ := none
  /-- The ids with a waiter. -/
  rpcWaiters : List String := []
  inbound : List (ℕ × Json) := []
  connected : Bool := false
  readerAlive : Bool := false
  handshakeComplete : Bool := false
  readinessState : String := ""
  disconnectCause : Option DisconnectCause := none
  inboundDropped : ℕ := 0
  deliverySeq : List (String × ℕ) := []
  heartbeatIntervalMs : Option ℕ := none
  degradedNotified : Bool := false
  /-- The results that waiters were given. -/
  settled : List (String × Except DaemonError Json) := []

/-- One atomic access. -/
inductive Update where
  | dropWriteTx
  | setConnected (b : Bool)
  | setReaderAlive (b : Bool)
  | setHandshakeComplete (b : Bool)
  | setReadinessState (state : String)
  | clearCause
  /-- Set the cause unless there is one. -/
  | setCause (cause : DisconnectCause)
  | clearWaiters
  /-- Fail the pending requests. -/
  | failWaiters
  | clearInbound
  | clearDegraded
  | setHeartbeatInterval (ms : ℕ)
  deriving DecidableEq, Repr

/-- `parse_daemon_error`. -/
def parseDaemonError (msg : Json) : DaemonError :=
  match msg.get "error" with
  | some err =>
    { code := ((err.get "code").bind Json.asI64?).getD (-1)
      message := (err.getStr "message").getD "daemon error"
      data := err.get "data" }
  | none => { code := -1, message := (msg.getStr "message").getD "daemon error" }

namespace Shared

variable (s : Shared)

/-- Perform an update. -/
def update : Update → Shared
  | .dropWriteTx => { s with writeTx := none }
  | .setConnected b => { s with connected := b }
  | .setReaderAlive b => { s with readerAlive := b }
  | .setHandshakeComplete b => { s with handshakeComplete := b }
  | .setReadinessState state => { s with readinessState := state }
  | .clearCause => { s with disconnectCause := none }
  | .setCause cause => { s with disconnectCause := s.disconnectCause.or (some cause) }
  | .clearWaiters => { s with rpcWaiters := [] }
  | .failWaiters =>
    { s with
      rpcWaiters := []
      settled := s.settled ++ s.rpcWaiters.map fun id => (id, .error ⟨-1, "disconnected", none⟩) }
  | .clearInbound => { s with inbound := [] }
  | .clearDegraded => { s with degradedNotified := false }
  | .setHeartbeatInterval ms => { s with heartbeatIntervalMs := some ms }

def noteInboundDrop : Shared :=
  { s with inboundDropped := s.inboundDropped + 1, degradedNotified := true }

/-- The index of the first queued frame with the highest priority number, and that number. -/
def dropCandidate : List (ℕ × Json) → Option (ℕ × ℤ)
  | [] => none
  | ev :: q =>
    let p := inboundFrameDropPriority ev.2.asObject?
    match dropCandidate q with
    | none => some (0, p)
    | some (i, best) => if best ≤ p then some (0, p) else some (i + 1, best)

/-- Queue a frame, with priority-aware drop when the queue is full. -/
def enqueuePendingLocked (ev : ℕ × Json) : Shared :=
  if s.inbound.length < s.maxInbound then { s with inbound := s.inbound ++ [ev] }
  else
    match (dropCandidate s.inbound).filter fun c => DROP_PRIORITY_NORMAL ≤ c.2 with
    | some (i, _) => { s with inbound := s.inbound.eraseIdx i ++ [ev] }.noteInboundDrop
    | none =>
      if DROP_PRIORITY_NORMAL ≤ inboundFrameDropPriority ev.2.asObject? then s.noteInboundDrop
      else if s.inbound = [] then { s with inbound := [ev] }
      else { s with inbound := s.inbound.tail ++ [ev] }.noteInboundDrop

/-- Take the next sequence number of a loop. -/
def bumpDeliverySeq (loopId : String) : ℕ × Shared :=
  let seq := (s.deliverySeq.lookup loopId).getD 0 + 1
  (seq, { s with deliverySeq := (loopId, seq) :: s.deliverySeq.filter (·.1 != loopId) })

/-- The result of a response or an error frame. -/
def rpcResult (msg : Json) : Except DaemonError Json :=
  if msg.getStrD "type" = "error" then .error (parseDaemonError msg)
  else .ok ((msg.get "result").getD (.obj []))

/-- Hand a response or an error to its waiter; `none` when no waiter has its id. -/
def takeWaiter (msg : Json) : Option Shared :=
  let id := msg.getStrD "id"
  if (msg.getStrD "type" = "response" ∨ msg.getStrD "type" = "error") ∧ id ≠ "" ∧
      id ∈ s.rpcWaiters then
    some { s with
      rpcWaiters := s.rpcWaiters.filter (· != id)
      settled := s.settled ++ [(id, rpcResult msg)] }
  else none

end Shared

/-- `mark_disconnected`. -/
def markDisconnected (cause : DisconnectCause) : List Update :=
  [.setConnected false, .setReaderAlive false, .dropWriteTx, .setCause cause, .failWaiters]

/-- An update of `mark_disconnected`, and what follows it. -/
theorem mark_cases {cause : DisconnectCause} {u : Update} {rest : List Update}
    (h : u :: rest <:+ markDisconnected cause) :
    (u = .setConnected false ∧
      rest = [.setReaderAlive false, .dropWriteTx, .setCause cause, .failWaiters]) ∨
    (u = .setReaderAlive false ∧ rest = [.dropWriteTx, .setCause cause, .failWaiters]) ∨
    (u = .dropWriteTx ∧ rest = [.setCause cause, .failWaiters]) ∨
    (u = .setCause cause ∧ rest = [.failWaiters]) ∨ u = .failWaiters ∧ rest = [] := by
  simpa only [markDisconnected, List.suffix_cons_iff, List.cons.injEq, List.suffix_nil,
    reduceCtorEq, or_false] using h

/-- The updates of `close`, after the `disconnect` notification. -/
def closeUpdates : List Update :=
  [.dropWriteTx, .setHandshakeComplete false, .setReadinessState ""] ++ markDisconnected .clean

/-- The updates of `reconnect`, before it connects. -/
def reconnectUpdates : List Update :=
  [.dropWriteTx, .setConnected false, .setReaderAlive false, .setHandshakeComplete false,
    .setReadinessState "", .clearCause, .clearWaiters, .clearInbound, .clearDegraded]

/-- The updates of `connect` between the new sender and its tasks. -/
def publishUpdates : List Update := [.setConnected true, .setReaderAlive true, .clearCause]

/-- The updates of a `connect` that was acknowledged. -/
def acceptUpdates (state : String) (ack : Json) : List Update :=
  [.setReadinessState (if state = "" then "ready" else state), .setHandshakeComplete true] ++
    ((((ack.get "result").bind (·.get "heartbeat_interval_ms")).bind Json.asU64?).map
      Update.setHeartbeatInterval).toList

end SootheClient.Client
