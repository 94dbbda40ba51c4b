import SootheClient.Frame.TurnId
import SootheClient.Frame.StreamTerminal

/-!
# The turn boundary

`TurnLifecycleGate` keeps the progress flags of a turn, and `TurnBoundary` applies the end rules of
`DaemonSession` to the frames of a pooled connection. A `Call` is one call of `feed_status_turn`
or `feed_event_turn`.
-/

namespace SootheClient.Turn

open SootheClient.Frame

/-- Completion event for gated `status=idle`. -/
def TURN_END_IDLE : String := "status.idle"

/-- Completion event for `status=stopped` after running. -/
def TURN_END_STOPPED : String := "status.stopped"

/-- Completion event for turn-scoped `soothe.stream.end`. -/
def TURN_END_STREAM_END : String := STREAM_END

/-- Per-turn progress flags. -/
structure TurnLifecycleGate where
  sawRunning : Bool := false
  sawTurnProgress : Bool := false
  expectedTurnId : Option String := none
  cancellationSeen : Bool := false
  deriving DecidableEq, Repr

namespace TurnLifecycleGate

variable (g : TurnLifecycleGate)

/-- Whether a running status with `statusTurn` takes over the binding. -/
def rebinds (statusTurn : String) : Bool :=
  match g.expectedTurnId with
  | none => true
  | some e =>
    match parseTurnGeneration (some statusTurn), parseTurnGeneration (some e) with
    | some new, some old => old ≤ new
    | some _, none => true
    | none, _ => false

/-- Observe a status frame. -/
def observeStatus (state : String) (turnId : Option String) : TurnLifecycleGate :=
  if Text.eqIgnoreAsciiCase state "running" then
    match turnId with
    | none => { g with sawRunning := true }
    | some statusTurn =>
      if g.rebinds statusTurn then
        { g with
          sawRunning := true
          sawTurnProgress :=
            if g.expectedTurnId.any (· ≠ statusTurn) then false else g.sawTurnProgress
          expectedTurnId := some statusTurn }
      else { g with sawRunning := true }
  else g

/-- Observe an event frame. -/
def observeEvent (mode : String) (data : Json) : TurnLifecycleGate :=
  if isTurnProgressChunk mode data then { g with sawTurnProgress := true } else g

def allowStreamEnd (frameTurn : Option String) : Bool :=
  isTurnTerminalAllowed g.expectedTurnId frameTurn g.sawRunning g.sawTurnProgress

def allowIdleComplete (frameTurn : Option String) : Bool :=
  isIdleTerminalAllowed g.expectedTurnId frameTurn g.sawRunning g.sawTurnProgress
    g.cancellationSeen

end TurnLifecycleGate

/-- The end rules applied to pool frames. -/
structure TurnBoundary where
  gate : TurnLifecycleGate := {}
  ended : Bool := false
  reason : String := ""
  deriving DecidableEq, Repr

/-- The reason of a boundary that ended. -/
def staticReason (reason : String) : Option String :=
  if reason = TURN_END_STREAM_END ∨ reason = TURN_END_IDLE ∨ reason = TURN_END_STOPPED then
    some reason
  else none

namespace TurnBoundary

variable (b : TurnBoundary)

def mark (reason : String) : TurnBoundary × Option String :=
  ({ b with ended := true, reason := reason }, some reason)

/-- Feed a status frame with its turn id. -/
def feedStatusTurn (state : String) (turnId : Option String) : TurnBoundary × Option String :=
  if b.ended then (b, staticReason b.reason)
  else
    let b := { b with gate := b.gate.observeStatus state turnId }
    if Text.eqIgnoreAsciiCase state "stopped" && b.gate.sawRunning then
      if b.gate.expectedTurnId.isSome && !turnIdsMatch b.gate.expectedTurnId turnId then (b, none)
      else b.mark TURN_END_STOPPED
    else if Text.eqIgnoreAsciiCase state "idle" && b.gate.allowIdleComplete turnId then
      b.mark TURN_END_IDLE
    else (b, none)

/-- Feed an event frame with the turn id of the outer frame. -/
def feedEventTurn (mode : String) (data : Json) (frameTurn : Option String) :
    TurnBoundary × Option String :=
  if b.ended then (b, staticReason b.reason)
  else
    let b := { b with gate := b.gate.observeEvent mode data }
    let tid := (frameTurnId data).or frameTurn
    if mode = "custom" && isTurnEndCustomData data && b.gate.allowStreamEnd tid then
      b.mark TURN_END_STREAM_END
    else (b, none)

end TurnBoundary

/-- A call of one of the two feeding methods. -/
inductive Call where
  | status (state : String) (turnId : Option String)
  | event (mode : String) (data : Json) (frameTurn : Option String)

/-- The call on a boundary: the boundary after it and what it returns. -/
def TurnBoundary.feed (b : TurnBoundary) : Call → TurnBoundary × Option String
  | .status state turnId => b.feedStatusTurn state turnId
  | .event mode data frameTurn => b.feedEventTurn mode data frameTurn

/-- The boundary after a sequence of calls, from the default one. -/
def run (h : List Call) : TurnBoundary := h.foldl (fun b c => (b.feed c).1) {}

/-- `TurnBoundary` completion events. -/
def isDaemonTurnEndEvent (completionEvent : String) : Bool :=
  (staticReason (Text.trim completionEvent)).isSome

variable {b : TurnBoundary} {c : Call} {h : List Call}

theorem run_concat : run (h ++ [c]) = ((run h).feed c).1 := by
  unfold run
  rw [List.foldl_append]
  rfl

theorem feed_of_ended (hb : b.ended = true) : b.feed c = (b, staticReason b.reason) := by
  cases c with
  | status => exact if_pos hb
  | event => exact if_pos hb

end SootheClient.Turn
