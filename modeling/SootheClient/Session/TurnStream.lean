import SootheClient.Frame.StalePending
import SootheClient.Lib.Duration
import SootheClient.Session.TurnLoop

/-!
# Streaming a turn

`iter_turn_chunks` peels the inbound queue, runs its main loop until the turn ends, and after a
regular end drains the stream for a short window. A `Tick` is what one iteration of either loop
finds; wall-clock time is the choice of the ticks.
-/

namespace SootheClient.Session

open SootheClient.Frame

/-- What an iteration finds. -/
inductive Tick where
  /-- The deadline of the loop has passed. -/
  | deadline
  | frame (ev : Json)
  /-- No frame came in time, or the connection is down and the queue empty. -/
  | silence (alive : Bool)

/-- The counters of a turn, with those that are written after the main loop. -/
structure TurnStats extends TurnEventStats where
  postIdleDrained : ℕ := 0
  inboundDropped : ℕ := 0

/-- The state that a session keeps across turns. -/
structure DaemonSession where
  loopId : String
  turnEventStats : TurnStats := {}
  lastTurnEndState : String := ""
  lastTurnCancelSeen : Bool := false
  lastTurnErrorMessage : String := ""

/-! ## The main loop -/

/-- How the main loop is left: by a frame, at the deadline, or on a lost connection. -/
inductive Leave where
  | exit (e : Exit)
  | timedOut (message : String)
  | connectionLost
  deriving DecidableEq, Repr

variable (earlyDrop : List Json → String → Json → Bool) (maxWait : Option ℕ)

/-- One iteration of the main loop. -/
def mainStep (s : TurnLoop) : Tick → Scan.Step TurnLoop (Leave × TurnLoop)
  | .deadline =>
    match maxWait with
    | none => .next s
    | some wait =>
      .stop (.timedOut
        ("turn timed out after " ++ Duration.debug wait ++ " (loop=" ++ s.expectedLoopId ++ ")"), s)
  | .frame ev =>
    match s.onFrame earlyDrop ev with
    | .next s => .next s
    | .stop (e, s) => .stop (.exit e, s)
  | .silence alive => if s.queryStarted && !alive then .stop (.connectionLost, s) else .next s

/-! ## The drain -/

/-- What the drain writes: the session's loop id, the chunks and the counters. -/
structure Drain where
  loopId : String
  out : List TurnChunk
  stats : TurnStats

/-- The chunk of an event frame. -/
def chunkOf (frame : Json) : TurnChunk :=
  ⟨(frame.get "namespace").getD (.arr []), frame.getStrD "mode", (frame.get "data").getD .null⟩

/-- The namespace path that the early filter is given. -/
def TurnChunk.nsSlice (chunk : TurnChunk) : List Json := chunk.ns.asArray?.getD []

namespace Drain

def adoptLoopId (d : Drain) (frame : Json) : Drain :=
  match frame.getStr "loop_id" with
  | some lid => if lid ≠ "" then { d with loopId := lid } else d
  | none => d

/-- An event frame of the drain: counted, filtered, and added to the output. -/
def onEvent (d : Drain) (frame : Json) : Drain :=
  let chunk := chunkOf frame
  let stats := { d.stats with toTurnEventStats := d.stats.toTurnEventStats.count chunk.mode }
  if earlyDrop chunk.nsSlice chunk.mode chunk.data then
    { d with stats := { stats with filteredEarly := stats.filteredEarly + 1 } }
  else
    { d with
      stats := { stats with postIdleDrained := stats.postIdleDrained + 1 }
      out := d.out ++ [chunk] }

/-- One iteration of the drain on a frame it has read. -/
def onFrame (expectedLoopId : String) (d : Drain) (ev : Json) : Scan.Step Drain Drain :=
  let frame := inner ev
  let eventType := frame.getStrD "type"
  let eventLoopId := frame.getStrD "loop_id"
  if expectedLoopId ≠ "" ∧ eventLoopId ≠ "" ∧ eventLoopId ≠ expectedLoopId then .next d
  else if eventType = "error" then .stop d
  else if eventType = "status" then .next (d.adoptLoopId frame)
  else if eventType ≠ "event" then .next d
  else .next (d.onEvent earlyDrop frame)

/-- One iteration of the drain. -/
def step (expectedLoopId : String) (d : Drain) : Tick → Scan.Step Drain Drain
  | .deadline => .stop d
  | .silence _ => .stop d
  | .frame ev => d.onFrame earlyDrop expectedLoopId ev

end Drain

/-! ## The whole turn -/

/-- What a call returns, and the session after it. -/
structure TurnResult where
  result : Except String (List TurnChunk)
  session : DaemonSession

/-- The locals with which the main loop starts. -/
def DaemonSession.start (S : DaemonSession) : TurnLoop := { expectedLoopId := S.loopId }

/-- The frame is peeled off the queue. -/
def Tick.stale : Tick → Bool
  | .frame ev => (stalePendingFrameLabel ev).isSome
  | _ => false

/-- `peel_stale_pending_control_events`. -/
def peel (queued : List Tick) : List Tick := queued.filter fun t => !t.stale

/-- The session after the main loop, when no drain follows. -/
def TurnLoop.session (s : TurnLoop) (endState message : String) (dropped : ℕ) : DaemonSession where
  loopId := s.expectedLoopId
  turnEventStats := { toTurnEventStats := s.stats, inboundDropped := dropped }
  lastTurnEndState := endState
  lastTurnCancelSeen := s.cancelSeen
  lastTurnErrorMessage := message

/-- The drain starts with the output and the counters of the main loop. -/
def TurnLoop.drain (s : TurnLoop) : Drain where
  loopId := s.expectedLoopId
  out := s.out
  stats := { toTurnEventStats := s.stats }

/-- What is returned after a drain. -/
def TurnLoop.finish (s : TurnLoop) (endState : String) (dropped : ℕ) (d : Drain) : TurnResult where
  result := .ok d.out
  session := { s.session endState "" dropped with
    loopId := d.loopId
    turnEventStats := { d.stats with inboundDropped := dropped } }

/-- What follows the main loop, on the ticks after it. -/
def afterMain (dropped : ℕ) (left : Leave × TurnLoop) (rest : List Tick) : Option TurnResult :=
  let s := left.2
  match left.1 with
  | .exit (.ended endState) =>
    (Scan.halt (Drain.step earlyDrop s.expectedLoopId) s.drain rest).map fun p =>
      s.finish endState dropped p.1
  | .exit (.failed message) => some ⟨.error message, s.session "" message dropped⟩
  | .timedOut message => some ⟨.error message, s.session "" message dropped⟩
  | .connectionLost => some ⟨.error "daemon connection lost", s.session "connection_lost" "" dropped⟩

/-- The main loop and what follows it; `none` when it has not returned at the end of the ticks. -/
def turnFrom (dropped : ℕ) (s : TurnLoop) (ticks : List Tick) : Option TurnResult :=
  (Scan.halt (mainStep earlyDrop maxWait) s ticks).bind fun p => afterMain earlyDrop dropped p.1 p.2

/-- `iter_turn_chunks`. `queued` are the iterations that read what is in the inbound queue at the
start, `late` the later ones; `dropped` is what the client's drop counter grows by meanwhile. -/
def iterTurnChunks (S : DaemonSession) (queued late : List Tick) (dropped : ℕ) :
    Option TurnResult :=
  turnFrom earlyDrop maxWait dropped S.start (peel queued ++ late)

end SootheClient.Session
