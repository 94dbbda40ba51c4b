import SootheClient.Client.Delivery

/-!
# The event stream of a connection

`start_reader` puts a second task behind the forwarder of the client: it takes the frames off the
forwarder's channel and sends them on the channel that a turn reads. `release` and `stop` abort it,
and `release` drops the receiver of the turn too. An abort takes effect where the task awaits, and
until then the task goes on.

Ghosts are what the turn took, what was lost in the task or with a receiver, and that a `recv` of
the turn found the stream at its end.
-/

namespace SootheClient.Pool

open SootheClient.Client (Forwarding Move)

/-- Both channels are created with this size. -/
def EVENT_BUFFER : ℕ := 256

/-- Where the task of `start_reader` is. -/
inductive ReaderTask where
  | receiving
  | sending (ev : ℕ × Json)
  /-- The loop is over; `reader_live` is stored next. -/
  | storing
  /-- The task returns, and its ends of the two channels are dropped. -/
  | returning
  | exited
  | cancelled

/-- How far a `release` has come. A `stop` only aborts. -/
inductive Teardown where
  | none
  | aborted
  | unset
  | dropped
  deriving DecidableEq

inductive StreamAct where
  /-- The reader of the connection, or the forwarder. -/
  | client (a : Move)
  | task
  /-- The abort takes effect. -/
  | cancel
  /-- `recv` of the turn. -/
  | recv
  | teardown

structure EventStream where
  forwarding : Forwarding
  task : ReaderTask := .receiving
  buffer : List (ℕ × Json) := []
  readerLive : Bool := true
  teardown : Teardown := .none
  taken : List (ℕ × Json) := []
  lost : List (ℕ × Json) := []
  ended : Bool := false

/-- The task is gone, and its ends of the two channels with it. -/
def ReaderTask.gone : ReaderTask → Bool
  | .exited | .cancelled => true
  | .receiving | .sending _ | .storing | .returning => false

/-- The frame in the hand of the task. -/
def ReaderTask.hand : ReaderTask → List (ℕ × Json)
  | .sending ev => [ev]
  | .receiving | .storing | .returning | .exited | .cancelled => []

namespace EventStream

variable (s : EventStream)

/-- `start_reader` on a connection whose queue may hold frames already. -/
def start (maxInbound : ℕ) (q : List (ℕ × Json)) (permit : Bool) : EventStream where
  forwarding := .start EVENT_BUFFER maxInbound q permit

/-- `event_stream_live`. -/
def eventStreamLive : Bool := s.teardown ≠ .dropped && s.readerLive

/-- The forwarder cannot send to a receiver that is gone, and exits. -/
def forwardStep : Option Forwarding :=
  match s.task.gone, s.forwarding.forwarder with
  | true, .sending _ => some { s.forwarding with forwarder := .exited }
  | _, _ => s.forwarding.forwardStep

/-- The task takes a frame, or finds that the forwarder is gone. -/
def receiveStep : Option EventStream :=
  match s.forwarding.channel, s.forwarding.forwarder with
  | [], .exited => some { s with task := .storing }
  | [], _ => none
  | ev :: _, _ =>
    (s.forwarding.step .receive).map fun w => { s with forwarding := w, task := .sending ev }

def sendStep (ev : ℕ × Json) : Option EventStream :=
  if s.teardown = .dropped then some { s with task := .storing, lost := s.lost ++ [ev] }
  else if s.buffer.length < EVENT_BUFFER then
    some { s with task := .receiving, buffer := s.buffer ++ [ev] }
  else none

/-- A step of the task. -/
def taskStep : Option EventStream :=
  match s.task with
  | .receiving => s.receiveStep
  | .sending ev => s.sendStep ev
  | .storing => some { s with task := .returning, readerLive := false }
  | .returning => some { s with task := .exited }
  | .exited | .cancelled => none

def cancelStep : Option EventStream :=
  if s.teardown = .none then none
  else
    match s.task with
    | .receiving | .sending _ =>
      some { s with task := .cancelled, lost := s.lost ++ s.task.hand }
    | .storing | .returning | .exited | .cancelled => none

/-- The turn takes a frame, or finds that the task is gone. -/
def recvStep : Option EventStream :=
  if s.teardown = .dropped then none
  else
    match s.buffer with
    | [] => if s.task.gone then some { s with ended := true } else none
    | ev :: rest => some { s with buffer := rest, taken := s.taken ++ [ev] }

def teardownStep : Option EventStream :=
  match s.teardown with
  | .none => some { s with teardown := .aborted }
  | .aborted => some { s with teardown := .unset, readerLive := false }
  | .unset => some { s with teardown := .dropped, buffer := [], lost := s.buffer ++ s.lost }
  | .dropped => none

def step : StreamAct → Option EventStream
  | .client .receive => none
  | .client .forward => s.forwardStep.map fun w => { s with forwarding := w }
  | .client a => (s.forwarding.step a).map fun w => { s with forwarding := w }
  | .task => s.taskStep
  | .cancel => s.cancelStep
  | .recv => s.recvStep
  | .teardown => s.teardownStep

end EventStream

/-- A step is smooth when its step of the client is. -/
def SmoothStep (s : EventStream) : StreamAct → Prop
  | .client a => Client.Smooth s.forwarding a
  | .task | .cancel | .recv | .teardown => True

/-- The connection is lost and its reader is done, neither the forwarder nor the task can take a
step, and the turn has taken all that is buffered. -/
structure Drained (s : EventStream) : Prop where
  dead : s.forwarding.shared.isConnectionAlive = false
  reader : s.forwarding.reader = .done
  forwarder : s.forwardStep = none
  task : s.taskStep = none
  buffer : s.buffer = []

/-- The turn finds the end of the stream, and has taken all frames but the evicted ones. -/
def Served (s : EventStream) : Prop :=
  s.recvStep = some { s with ended := true } ∧
    (s.forwarding.queued : Multiset (ℕ × Json)) = s.taken + s.forwarding.evicted

end SootheClient.Pool
