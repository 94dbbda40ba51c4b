import Mathlib.Logic.Function.Basic
import SootheClient.Client.Shared
import SootheClient.Lib.Lts

/-!
# The tasks of a client

The calls `connect`, `connect_with_retries`, `close` and `reconnect`, made from any number of
places, and the reader task of every connection that was dialed, on one shared state. A label is
one atomic step of one task or an answer of its environment: what the dial gives, what the socket
delivers, the end of the handshake's 15 s, a write that fails.

`acked` is ghost: the frames that a handshake accepted, each with the connection it came from.
-/

namespace SootheClient.Client

open SootheClient.Frame

/-- What a socket delivers. -/
inductive Item where
  /-- A text, as `decode_message` reads it. -/
  | text (raw : Option Json)
  | ping
  /-- Another message that the reader ignores. -/
  | other
  /-- A close frame, an error or the end of the stream. -/
  | ended

/-- Where the reader task of a connection is. -/
inductive ReaderPc where
  | unspawned
  | reading
  /-- Frames of one message wait for `route_inbound`. -/
  | routing (msgs : List Json)
  /-- In `route_inbound`: the acknowledgement is sent next. -/
  | acking (loopId : String) (seq : ℕ) (msg : Json) (rest : List Json)
  /-- In `route_inbound`: the waiters are asked next. -/
  | dispatching (msg : Json) (rest : List Json)
  /-- In `route_inbound`: the frame is queued next. -/
  | enqueueing (msg : Json) (rest : List Json)
  /-- Updates of `mark_disconnected` that are left; the task is done when there are none. -/
  | marking (rest : List Update)

/-- What a call goes on with after a sequence of updates. -/
inductive Cont where
  /-- `connect` spawns the tasks of a connection. -/
  | spawn (e : ℕ)
  /-- `reconnect` calls `connect`. -/
  | connect
  /-- The call returns `Ok`. -/
  | ok

/-- Where a call is. -/
inductive Pc where
  | idle
  /-- `connect` asks `is_connected`. -/
  | checking
  | dialing
  /-- The dial succeeded; the new sender is stored next. -/
  | installing
  | updating (rest : List Update) (k : Cont)
  /-- The handshake on a connection sends `connection_init`. -/
  | sendingInit (e : ℕ)
  /-- The handshake on a connection reads its next frame. -/
  | awaiting (e : ℕ)
  /-- `connect_with_retries` sleeps between two attempts. -/
  | sleeping
  /-- `close` asks `is_connected`. -/
  | closing
  /-- `close` notifies the daemon. -/
  | notifying
  | returned (r : Except Error Unit)

/-- A call; `retries` is the attempt of a `connect_with_retries` and its limit. -/
structure Call where
  pc : Pc := .idle
  retries : Option (ℕ × ℕ) := none

/-- The calls of the client that the model runs. -/
inductive Op where
  | connect
  | connectWithRetries (maxRetries : ℕ)
  | close
  | reconnect
  deriving DecidableEq, Repr

/-- The step of a call: the code goes on, or what it waits for comes out some way. -/
inductive Event where
  | next
  | dialed
  | dialFailed
  /-- The deadline of the handshake. -/
  | deadline
  deriving DecidableEq, Repr

inductive Label where
  /-- A call is made from the place `i`. -/
  | call (i : ℕ) (op : Op)
  | step (i : ℕ) (event : Event)
  /-- The socket of a connection delivers an item to its reader. -/
  | receive (e : ℕ) (item : Item)
  /-- The reader of a connection goes on. -/
  | reader (e : ℕ)
  /-- A write on a connection fails, and its writer task ends. -/
  | writerDown (e : ℕ)
  /-- A request registers its waiter. -/
  | register (id : String)
  /-- A request that failed or timed out removes its waiter. -/
  | unregister (id : String)
  /-- The application reads an event. -/
  | readEvent

/-- A client with its tasks. -/
structure Tasks where
  shared : Shared := {}
  /-- How many connections were dialed. -/
  installed : ℕ := 0
  reader : ℕ → ReaderPc := fun _ => .unspawned
  writerUp : ℕ → Bool := fun _ => true
  sent : List (ℕ × Outgoing) := []
  call : ℕ → Call := fun _ => {}
  acked : List (ℕ × Json) := []

/-- What the handshake does with a frame. -/
inductive Verdict where
  | ignore
  | resend
  | accept (state : String)
  | fail (err : Error)

/-- The branches of `wait_connection_ack` on a frame. -/
def handshakeVerdict (msg : Json) : Verdict :=
  let msgType := msg.getStrD "type"
  if msgType = "status" then .ignore
  else if msgType = "error" then
    let err := parseDaemonError msg
    if -32003 ≤ err.code ∧ err.code ≤ -32001 then .resend else .fail (.daemon err)
  else if msgType = "connection_ack" then
    let state := (((msg.get "result").bind (·.get "readiness_state")).bind Json.asStr?).getD ""
    if state = "starting" ∨ state = "warming" then .resend
    else if state = "ready" ∨ state = "" then .accept state
    else .fail (.protocol s!"connection_ack readiness_state={state}")
  else .ignore

namespace Tasks

/-- A new client. -/
def withConfig (maxInbound : ℕ) : Tasks := { shared := { maxInbound := maxInbound } }

variable (w : Tasks)

def setReader (e : ℕ) (pc : ReaderPc) : Tasks :=
  { w with reader := Function.update w.reader e pc }

def setCall (i : ℕ) (c : Call) : Tasks := { w with call := Function.update w.call i c }

def setPc (i : ℕ) (pc : Pc) : Tasks := w.setCall i { w.call i with pc := pc }

/-- `send_raw`. -/
def sendRaw (msg : Outgoing) : Except Error Unit × Tasks :=
  match w.shared.writeTx with
  | none => (.error (.protocol "not connected"), w)
  | some e =>
    if w.writerUp e then (.ok (), { w with sent := w.sent ++ [(e, msg)] })
    else (.error (.protocol "write channel closed"), w)

/-! ## The reader -/

/-- The reader takes an item off its socket. -/
def receive (e : ℕ) : Item → Tasks
  | .text none => w
  | .text (some raw) => w.setReader e (.routing (expandWireMessages raw))
  | .ping => (w.sendRaw .rawPong).2
  | .other => w
  | .ended => w.setReader e (.marking (markDisconnected .unclean))

/-- `route_inbound` up to its first lock. -/
def route (e : ℕ) (msg : Json) (rest : List Json) : Tasks :=
  if msg.getStr "type" = some "ping" then (w.sendRaw .pong).2.setReader e (.routing rest)
  else if msg.getStr "type" = some "pong" then w.setReader e (.routing rest)
  else
    let loopId := extractLoopIdFromInbound msg
    if inboundNeedsDeliveryAck msg ∧ loopId ≠ "" then
      let bumped := w.shared.bumpDeliverySeq loopId
      { w with shared := bumped.2 }.setReader e (.acking loopId bumped.1 msg rest)
    else w.setReader e (.dispatching msg rest)

/-- A step of the reader task. -/
def readerStep (e : ℕ) : Option Tasks :=
  match w.reader e with
  | .unspawned => none
  | .reading => none
  | .routing [] => some (w.setReader e .reading)
  | .routing (msg :: rest) => some (w.route e msg rest)
  | .acking loopId seq msg rest =>
    some ((w.sendRaw (.deliveryAck loopId seq)).2.setReader e (.dispatching msg rest))
  | .dispatching msg rest =>
    match w.shared.takeWaiter msg with
    | some shared => some ({ w with shared := shared }.setReader e (.routing rest))
    | none => some (w.setReader e (.enqueueing msg rest))
  | .enqueueing msg rest =>
    some ({ w with shared := w.shared.enqueuePendingLocked (e, msg) }.setReader e (.routing rest))
  | .marking [] => none
  | .marking (u :: rest) => some ({ w with shared := w.shared.update u }.setReader e (.marking rest))

/-! ## The calls -/

def start (i : ℕ) : Op → Tasks
  | .connect => w.setCall i { pc := .checking }
  | .connectWithRetries maxRetries =>
    w.setCall i { pc := .checking, retries := some (1, if maxRetries = 0 then 40 else maxRetries) }
  | .close => w.setCall i { pc := .closing }
  | .reconnect => w.setCall i { pc := .updating reconnectUpdates .connect }

/-- The new sender is stored; its connection gets the next number. -/
def install (i : ℕ) : Tasks :=
  { w with
    shared := { w.shared with writeTx := some w.installed }
    installed := w.installed + 1 }.setPc i (.updating publishUpdates (.spawn w.installed))

/-- The handshake sends `connection_init`. -/
def sendInit (i e : ℕ) : Tasks :=
  match w.sendRaw .connectionInit with
  | (.error err, w) => w.setPc i (.returned (.error err))
  | (.ok _, w) => w.setPc i (.awaiting e)

/-- The handshake handles a frame of the connection `origin`. -/
def onFrame (i e origin : ℕ) (msg : Json) : Tasks :=
  match handshakeVerdict msg with
  | .ignore => w
  | .resend => w.setPc i (.sendingInit e)
  | .accept state =>
    { w with acked := (origin, msg) :: w.acked }.setPc i (.updating (acceptUpdates state msg) .ok)
  | .fail err => w.setPc i (.returned (.error err))

/-- A call goes on after its updates. -/
def resume (i : ℕ) : Cont → Tasks
  | .spawn e => (w.setReader e .reading).setPc i (.sendingInit e)
  | .connect => w.setPc i .checking
  | .ok => w.setPc i (.returned (.ok ()))

/-- A `connect` returned: `connect_with_retries` sleeps before its next attempt, if any. -/
def retry (i : ℕ) : Option Tasks :=
  match (w.call i).retries, (w.call i).pc with
  | some (attempt, max), .returned (.error _) =>
    if attempt < max then
      some (w.setCall i { pc := .sleeping, retries := some (attempt + 1, max) })
    else none
  | _, _ => none

/-- A step of a call. -/
def callStep (i : ℕ) (event : Event) : Option Tasks :=
  match (w.call i).pc, event with
  | .checking, .next =>
    some (w.setPc i (if w.shared.connected then .returned (.ok ()) else .dialing))
  | .dialing, .dialed => some (w.setPc i .installing)
  | .dialing, .dialFailed => some (w.setPc i (.returned (.error (.connection 1))))
  | .installing, .next => some (w.install i)
  | .updating [] k, .next => some (w.resume i k)
  | .updating (u :: rest) k, .next =>
    some ({ w with shared := w.shared.update u }.setPc i (.updating rest k))
  | .sendingInit e, .next => some (w.sendInit i e)
  | .awaiting e, .next =>
    match w.shared.inbound with
    | [] => none
    | (origin, msg) :: q =>
      some ({ w with shared := { w.shared with inbound := q } }.onFrame i e origin msg)
  | .awaiting _, .deadline =>
    some (w.setPc i (.returned (.error (.timeout "connection_ack" "15s"))))
  | .returned _, .next => w.retry i
  | .sleeping, .next => some (w.setPc i .checking)
  | .closing, .next =>
    some (w.setPc i (if w.shared.connected then .notifying else .updating closeUpdates .ok))
  | .notifying, .next => some ((w.sendRaw .disconnect).2.setPc i (.updating closeUpdates .ok))
  | _, _ => none

/-- The next call can be made from `i`. -/
def free (i : ℕ) : Bool :=
  match (w.call i).pc with
  | .idle => true
  | .returned _ => (w.retry i).isNone
  | _ => false

/-- One step of one task. -/
def step : Label → Option Tasks
  | .call i op => if w.free i then some (w.start i op) else none
  | .step i event => w.callStep i event
  | .receive e item =>
    match w.reader e with
    | .reading => some (w.receive e item)
    | _ => none
  | .reader e => w.readerStep e
  | .writerDown e =>
    if e < w.installed then some { w with writerUp := Function.update w.writerUp e false }
    else none
  | .register id =>
    some { w with shared := { w.shared with
      rpcWaiters := id :: w.shared.rpcWaiters.filter (· != id) } }
  | .unregister id =>
    some { w with shared := { w.shared with rpcWaiters := w.shared.rpcWaiters.filter (· != id) } }
  | .readEvent =>
    match w.shared.inbound with
    | [] => none
    | _ :: q => some { w with shared := { w.shared with inbound := q } }

end Tasks

/-! ## Small facts -/

variable {w : Tasks} {i j e e' : ℕ} {pc : ReaderPc} {p : Pc} {c : Call} {m : Outgoing}

namespace Tasks

@[simp] theorem setReader_reader_self : (w.setReader e pc).reader e = pc := Function.update_self ..

@[simp] theorem setReader_reader_ne (h : e' ≠ e) : (w.setReader e pc).reader e' = w.reader e' :=
  Function.update_of_ne h ..

@[simp] theorem setReader_shared : (w.setReader e pc).shared = w.shared := rfl

@[simp] theorem setReader_call : (w.setReader e pc).call = w.call := rfl

@[simp] theorem setCall_call_self : (w.setCall i c).call i = c := Function.update_self ..

@[simp] theorem setCall_call_ne (h : j ≠ i) : (w.setCall i c).call j = w.call j :=
  Function.update_of_ne h ..

@[simp] theorem setPc_pc_self : ((w.setPc i p).call i).pc = p := by
  unfold setPc
  rw [setCall_call_self]

@[simp] theorem setPc_call_ne (h : j ≠ i) : (w.setPc i p).call j = w.call j := setCall_call_ne h

@[simp] theorem setPc_shared : (w.setPc i p).shared = w.shared := rfl

@[simp] theorem setPc_reader : (w.setPc i p).reader = w.reader := rfl

@[simp] theorem setPc_installed : (w.setPc i p).installed = w.installed := rfl

/-- A message changes nothing but what was sent. -/
theorem sendRaw_eq : ∃ sent, (w.sendRaw m).2 = { w with sent := sent } := by
  unfold sendRaw
  split
  · exact ⟨w.sent, rfl⟩
  · split_ifs
    · exact ⟨_, rfl⟩
    · exact ⟨w.sent, rfl⟩

end Tasks

end SootheClient.Client
