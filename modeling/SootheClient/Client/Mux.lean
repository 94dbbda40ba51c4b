import SootheClient.Client.Queue
import SootheClient.Client.Steps

/-!
# The multiplexer

Any number of calls of `route_inbound` in flight, each as the loop of a reader makes it, with the
operations of the application on the queue and the requests that register waiters. A call has a
number, and the frame it queues carries that number.

Beside the tasks there are ghosts: what was routed and where it ended up, what was offered to the
queue, and how a frame left it.
-/

namespace SootheClient.Client

open SootheClient.Frame

/-- Where a frame ends up that `route_inbound` was called with. -/
inductive Fate where
  | answered
  | absorbed
  | handed
  | enqueued
  deriving DecidableEq, Repr

/-- The end of a call of `route_inbound`. -/
structure Outcome where
  number : ℕ
  msg : Json
  fate : Fate

inductive Act where
  /-- `route_inbound` is called. -/
  | route (n : ℕ) (msg : Json)
  /-- A call goes on. -/
  | step (n : ℕ)
  | push (n : ℕ) (ev : Json)
  | pop
  | peel
  | clear
  | setMax (n : ℕ)
  /-- A request registers its waiter. -/
  | register (id : String)
  /-- A request removes its waiter. -/
  | unregister (id : String)

structure Mux where
  tasks : Tasks
  routed : List (ℕ × Json) := []
  pushed : List (ℕ × Json) := []
  fates : List Outcome := []
  registered : List String := []
  /-- All that was offered to the queue. -/
  enqueued : List (ℕ × Json) := []
  popped : List (ℕ × Json) := []
  peeled : List (ℕ × Json) := []
  cleared : List (ℕ × Json) := []
  dropped : List (ℕ × Json) := []

/-- The frame in hand, and the frames of the message that follow it. -/
def ReaderPc.hand : ReaderPc → Option (Json × List Json)
  | .routing (msg :: rest) => some (msg, rest)
  | .acking _ _ msg rest => some (msg, rest)
  | .dispatching msg rest => some (msg, rest)
  | .enqueueing msg rest => some (msg, rest)
  | .unspawned | .reading | .routing [] | .marking _ => none

namespace Mux

variable (m : Mux)

/-- A client with an empty queue; the bound and the writer are any. -/
def start (maxInbound : ℕ) (writeTx : Option ℕ) (writerUp : ℕ → Bool) : Mux where
  tasks := { shared := { maxInbound := maxInbound, writeTx := writeTx }, writerUp := writerUp }

/-- The fate that the next step of the call `n` gives its frame, if any. -/
def fateOf (n : ℕ) : Option (Json × Fate) :=
  match m.tasks.reader n with
  | .routing (msg :: _) =>
    if msg.getStr "type" = some "ping" then some (msg, .answered)
    else if msg.getStr "type" = some "pong" then some (msg, .absorbed)
    else none
  | .dispatching msg _ =>
    if (m.tasks.shared.takeWaiter msg).isSome then some (msg, .handed) else none
  | .enqueueing msg _ => some (msg, .enqueued)
  | _ => none

/-- The frame that the call `n` offers to the queue next, if any. -/
def offer (n : ℕ) : Option (ℕ × Json) :=
  match m.tasks.reader n with
  | .enqueueing msg _ => some (n, msg)
  | _ => none

/-- Note what is offered to the queue and what is lost for it. -/
def noteOffer (ev : Option (ℕ × Json)) : Mux :=
  { m with
    enqueued := m.enqueued ++ ev.toList
    dropped := m.dropped ++ (ev.bind m.tasks.shared.lost).toList }

def setShared (s : Shared) : Mux := { m with tasks := { m.tasks with shared := s } }

/-- A step of the call `n`. -/
def routeStep (n : ℕ) : Option Mux :=
  if (m.tasks.reader n).hand.isNone then none
  else
    (m.tasks.readerStep n).map fun w =>
      { m.noteOffer (m.offer n) with
        tasks := w
        fates := m.fates ++ ((m.fateOf n).map fun f => ⟨n, f.1, f.2⟩).toList }

/-- `push_pending_event`. -/
def push (ev : ℕ × Json) : Mux :=
  let offered := if ev.2.asObject?.isSome then some ev else none
  { (m.noteOffer offered).setShared (m.tasks.shared.pushPendingEvent ev) with
    pushed := m.pushed ++ offered.toList }

def step : Act → Option Mux
  | .route n msg =>
    match m.tasks.reader n with
    | .unspawned =>
      some { m with
        tasks := m.tasks.setReader n (.routing [msg])
        routed := m.routed ++ [(n, msg)] }
    | _ => none
  | .step n => m.routeStep n
  | .push n ev => some (m.push (n, ev))
  | .pop =>
    m.tasks.shared.popFront.map fun r => { m.setShared r.2 with popped := m.popped ++ [r.1] }
  | .peel =>
    some { m.setShared m.tasks.shared.peelStalePendingControlEvents.2 with
      peeled := m.peeled ++ m.tasks.shared.stale }
  | .clear =>
    some { m.setShared m.tasks.shared.clearPendingEvents with
      cleared := m.cleared ++ m.tasks.shared.inbound }
  | .setMax n => some (m.setShared (m.tasks.shared.setInboundMaxSize n))
  | .register id =>
    (m.tasks.step (.register id)).map fun w =>
      { m with tasks := w, registered := m.registered ++ [id] }
  | .unregister id => (m.tasks.step (.unregister id)).map fun w => { m with tasks := w }

end Mux

end SootheClient.Client
