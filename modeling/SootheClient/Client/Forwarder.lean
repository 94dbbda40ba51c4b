import SootheClient.Client.Queue
import SootheClient.Lib.Ledger
import SootheClient.Lib.Lts
import SootheClient.Lib.Notify

/-!
# The forwarder

The task that `receive_messages` spawns takes frames off the inbound queue and sends them on a
channel, beside the reader of the connection. The task pops, asks whether the connection is alive
and waits to be notified, each in a step of its own, and the reader queues, notifies and marks the
connection between them.

Ghosts are the frames that were put into the queue and those that were evicted from it.
-/

namespace SootheClient.Client

open SootheClient.Frame

/-- Where the task of `receive_messages` is. -/
inductive ForwarderPc where
  | popping
  | sending (ev : ℕ × Json)
  | checking
  /-- The future of `notified` is created next. -/
  | creating
  /-- The future was created after so many calls of `notify_waiters`; it is polled next. -/
  | polling (created : ℕ)
  | parked
  | exited

/-- Where the reader is. -/
inductive FeederPc where
  | reading
  | enqueueing (ev : ℕ × Json)
  | notifying
  /-- Updates of `mark_disconnected` that are left; `notify_waiters` follows them. -/
  | marking (rest : List Update)
  | done

inductive Move where
  /-- The connection brings a frame that is to be queued. -/
  | deliver (ev : ℕ × Json)
  | lose
  | reader
  | forward
  /-- The receiver takes a frame off the channel. -/
  | receive

structure Forwarding where
  shared : Shared := {}
  notify : Notify Unit := {}
  capacity : ℕ
  reader : FeederPc := .reading
  forwarder : ForwarderPc := .popping
  channel : List (ℕ × Json) := []
  received : List (ℕ × Json) := []
  queued : List (ℕ × Json) := []
  evicted : List (ℕ × Json) := []

namespace Shared

variable (s : Shared)

def isConnectionAlive : Bool := s.readerAlive && s.connected

/-- The frame is not queued. -/
def refuses (ev : ℕ × Json) : Bool :=
  s.maxInbound ≤ s.inbound.length &&
    ((dropCandidate s.inbound).filter fun c => DROP_PRIORITY_NORMAL ≤ c.2).isNone &&
      DROP_PRIORITY_NORMAL ≤ dropPriority ev

/-- The queued frames that are lost for a frame that comes in. -/
def evicts (ev : ℕ × Json) : List (ℕ × Json) := if s.refuses ev then [] else (s.lost ev).toList

end Shared

namespace Forwarding

variable (w : Forwarding)

/-- The task is spawned on a live connection; the queue and the permit are any. -/
def start (buffer maxInbound : ℕ) (q : List (ℕ × Json)) (permit : Bool) : Forwarding where
  shared := { maxInbound := maxInbound, inbound := q, connected := true, readerAlive := true }
  notify := { permit := permit }
  capacity := if buffer = 0 then 100 else buffer
  queued := q

/-- A step of the reader. -/
def readerStep : Option Forwarding :=
  match w.reader with
  | .reading | .done => none
  | .enqueueing ev =>
    some { w with
      shared := w.shared.enqueuePendingLocked ev
      reader := .notifying
      queued := w.queued ++ if w.shared.refuses ev then [] else [ev]
      evicted := w.evicted ++ w.shared.evicts ev }
  | .notifying => some { w with notify := w.notify.notifyOne, reader := .reading }
  | .marking (u :: rest) => some { w with shared := w.shared.update u, reader := .marking rest }
  | .marking [] => some { w with notify := w.notify.notifyWaiters, reader := .done }

/-- A step of the forwarder. -/
def forwardStep : Option Forwarding :=
  match w.forwarder with
  | .popping =>
    match w.shared.popFront with
    | some (ev, s) => some { w with shared := s, forwarder := .sending ev }
    | none => some { w with forwarder := .checking }
  | .sending ev =>
    if w.channel.length < w.capacity then
      some { w with channel := w.channel ++ [ev], forwarder := .popping }
    else none
  | .checking =>
    some { w with forwarder := if w.shared.isConnectionAlive then .creating else .exited }
  | .creating => some { w with forwarder := .polling w.notify.calls }
  | .polling created =>
    let r := w.notify.poll () created
    some { w with notify := r.2, forwarder := if r.1 then .popping else .parked }
  | .parked => if () ∈ w.notify.waiting then none else some { w with forwarder := .popping }
  | .exited => none

def step : Move → Option Forwarding
  | .deliver ev =>
    match w.reader with
    | .reading => some { w with reader := .enqueueing ev }
    | _ => none
  | .lose =>
    match w.reader with
    | .reading => some { w with reader := .marking (markDisconnected .unclean) }
    | _ => none
  | .reader => w.readerStep
  | .forward => w.forwardStep
  | .receive =>
    match w.channel with
    | [] => none
    | ev :: rest => some { w with channel := rest, received := w.received ++ [ev] }

end Forwarding

/-- The connection is lost, the reader is done, the channel is empty, and the forwarder can take no
step. -/
structure Quiescent (w : Forwarding) : Prop where
  dead : w.shared.isConnectionAlive = false
  reader : w.reader = .done
  channel : w.channel = []
  forwarder : w.forwardStep = none

/-- The forwarder has exited, and the receiver has all that was queued, in order. -/
def Delivered (w : Forwarding) : Prop := w.forwarder = .exited ∧ w.received = w.queued

/-- The forwarder has exited, and the receiver has all but the evicted frames. -/
def Exhausted (w : Forwarding) : Prop :=
  w.forwarder = .exited ∧ (w.queued : Multiset (ℕ × Json)) = w.received + w.evicted

/-- The forwarder finds the connection dead only when the queue is empty, and the last notification
does not come between a check that found it alive and the future, unless there is a permit. -/
def Smooth (w : Forwarding) : Move → Prop
  | .forward => w.forwarder = .checking → w.shared.isConnectionAlive = false → w.shared.inbound = []
  | .reader => w.reader = .marking [] → w.forwarder = .creating → w.notify.permit = true
  | .deliver _ | .lose | .receive => True

/-- No queued frame is evicted. -/
def Roomy (w : Forwarding) : Move → Prop
  | .reader => ∀ ev, w.reader = .enqueueing ev → w.shared.evicts ev = []
  | .deliver _ | .lose | .forward | .receive => True

end SootheClient.Client
