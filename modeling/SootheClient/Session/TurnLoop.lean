import SootheClient.Frame.ChunkFilter
import SootheClient.Frame.Next
import SootheClient.Frame.StreamTerminal
import SootheClient.Frame.TurnId
import SootheClient.Lib.Scan

/-!
# The turn loop of a session

`iter_turn_chunks` reads the frames of the stream socket until the turn ends. `TurnLoop` holds the
locals of its main loop and `onFrame` is one iteration that reads a frame. The session's own copies
of the loop id and of the cancel flag are written together with the locals.
-/

namespace SootheClient.Session

open SootheClient.Frame

/-- Per-turn stream filtering counters. -/
structure TurnEventStats where
  total : ℕ := 0
  messages : ℕ := 0
  updates : ℕ := 0
  custom : ℕ := 0
  skipped : ℕ := 0
  filteredEarly : ℕ := 0
  toolCalls : ℕ := 0
  toolResults : ℕ := 0
  textChunks : ℕ := 0
  deriving DecidableEq, Repr

/-- One streamed turn chunk. -/
structure TurnChunk where
  ns : Json
  mode : String
  data : Json

/-- The locals of the main loop. -/
structure TurnLoop where
  expectedLoopId : String
  queryStarted : Bool := false
  expectedTurnId : Option String := none
  turnProgressSeen : Bool := false
  cancelSeen : Bool := false
  out : List TurnChunk := []
  stats : TurnEventStats := {}

/-- How the main loop is left: `last_turn_end_state`, or the message of a daemon error. -/
inductive Exit where
  | ended (state : String)
  | failed (message : String)
  deriving DecidableEq, Repr

/-- One iteration: the loop goes on, or is left with its locals. -/
abbrev Step := Scan.Step TurnLoop (Exit × TurnLoop)

/-- Count an event of a mode. -/
def TurnEventStats.count (st : TurnEventStats) (mode : String) : TurnEventStats :=
  let st := { st with total := st.total + 1 }
  if mode = "messages" then { st with messages := st.messages + 1 }
  else if mode = "updates" then { st with updates := st.updates + 1 }
  else if mode = "custom" then { st with custom := st.custom + 1 }
  else st

/-- Count a tool call or result by the namespace path. -/
def TurnEventStats.countTool (st : TurnEventStats) (nsSlice : List Json) : TurnEventStats :=
  let nsStr := String.intercalate "." (nsSlice.filterMap Json.asStr?)
  if Text.contains nsStr "tool" then
    if Text.contains nsStr "result" then { st with toolResults := st.toolResults + 1 }
    else { st with toolCalls := st.toolCalls + 1 }
  else st

/-- The message of an error frame. -/
def errorMessage (frame : Json) : String :=
  match (frame.get "error").bind fun e => e.getStr "message" with
  | some m => m
  | none => (frame.getStr "message").getD "daemon error"

namespace TurnLoop

variable (earlyDrop : List Json → String → Json → Bool) (s : TurnLoop)

/-- The frame is of another loop. -/
def skipsLoop (eventLoopId : String) : Bool :=
  s.expectedLoopId ≠ "" && eventLoopId ≠ "" && eventLoopId ≠ s.expectedLoopId

/-- The frame is of another turn than the bound one. -/
def skipsTurn (eventType statusState : String) (evTurn : Option String) : Bool :=
  match s.expectedTurnId with
  | none => false
  | some expected =>
    if (eventType = "event" ∨ eventType = "status") ∧ statusState ≠ "running" then
      if statusState = "idle" ∨ statusState = "stopped" then
        match evTurn with
        | some tid => !turnIdsMatch (some expected) (some tid)
        | none => false
      else !turnIdsMatch (some expected) evTurn
    else false

/-- Whether a running status with `statusTurn` takes over the binding. -/
def rebinds (statusTurn : String) : Bool :=
  let newGen := parseTurnGeneration (some statusTurn)
  let oldGen := parseTurnGeneration s.expectedTurnId
  s.expectedTurnId.isNone ||
    match newGen, oldGen with
    | some new, some old => old ≤ new
    | some _, none => true
    | none, _ => false

/-- Observe a running status. -/
def observeRunning (evTurn : Option String) : TurnLoop :=
  let s := { s with queryStarted := true }
  match evTurn with
  | none => s
  | some statusTurn =>
    if s.rebinds statusTurn then
      { s with
        turnProgressSeen :=
          if s.expectedTurnId.any (· ≠ statusTurn) then false else s.turnProgressSeen
        expectedTurnId := some statusTurn }
    else s

/-- A status frame with a loop id names the session's loop. -/
def adoptLoopId (frame : Json) : TurnLoop :=
  match frame.getStr "loop_id" with
  | some lid => if lid ≠ "" then { s with expectedLoopId := lid } else s
  | none => s

def onStatus (statusState : String) (evTurn : Option String) : Step :=
  if statusState = "running" then .next (s.observeRunning evTurn)
  else if statusState = "stopped" ∧ s.queryStarted then
    if s.expectedTurnId.isSome && !turnIdsMatch s.expectedTurnId evTurn then .next s
    else .stop (.ended statusState, s)
  else if statusState = "idle" ∧ s.queryStarted then
    if !isIdleTerminalAllowed s.expectedTurnId evTurn s.queryStarted s.turnProgressSeen
        s.cancelSeen then .next s
    else .stop (.ended statusState, s)
  else .next s

def onCommandResponse (frame : Json) : TurnLoop :=
  if Text.contains (frame.getStrD "content") "Cancellation requested" then
    { s with cancelSeen := true }
  else s

/-- Observe a chunk that is not filtered: progress, statistics and output. -/
def observeChunk (nsSlice : List Json) (chunk : TurnChunk) : TurnLoop :=
  let s :=
    if isTurnProgressChunk chunk.mode chunk.data then
      { s with
        turnProgressSeen := true
        stats :=
          if chunk.mode = "messages" then { s.stats with textChunks := s.stats.textChunks + 1 }
          else s.stats }
    else s
  { s with stats := s.stats.countTool nsSlice, out := s.out ++ [chunk] }

/-- The end state of a terminal custom payload. -/
def endState (data : Json) : String :=
  if data.getStrD "type" = STREAM_END then "stream_end" else "completed"

def onEvent (frame : Json) (evTurn : Option String) : Step :=
  let data := (frame.get "data").getD .null
  let ns := (frame.get "namespace").getD (.arr [])
  let mode := frame.getStrD "mode"
  let s := { s with stats := s.stats.count mode }
  let nsSlice := ns.asArray?.getD []
  if earlyDrop nsSlice mode data then
    .next { s with stats := { s.stats with filteredEarly := s.stats.filteredEarly + 1 } }
  else
    let turnEnd := mode = "custom" && isTurnEndCustomData data
    let dataTurn := (frameTurnId data).or evTurn
    if turnEnd && !isTurnTerminalAllowed s.expectedTurnId dataTurn s.queryStarted
        s.turnProgressSeen then
      .next { s with stats := { s.stats with skipped := s.stats.skipped + 1 } }
    else
      let s := s.observeChunk nsSlice ⟨ns, mode, data⟩
      if turnEnd then .stop (.ended (endState data), s) else .next s

/-- One iteration of the main loop on a frame it has read. -/
def onFrame (ev : Json) : Step :=
  let frame := inner ev
  let eventType := frame.getStrD "type"
  if s.skipsLoop (frame.getStrD "loop_id") then .next s
  else
    let evTurn := frameTurnId frame
    let statusState := if eventType = "status" then frame.getStrD "state" else ""
    if s.skipsTurn eventType statusState evTurn then .next s
    else if eventType = "error" then .stop (.failed (errorMessage frame), s)
    else if eventType = "status" then (s.adoptLoopId frame).onStatus statusState evTurn
    else if eventType = "command_response" then .next (s.onCommandResponse frame)
    else if eventType ≠ "event" then .next s
    else s.onEvent earlyDrop frame evTurn

end TurnLoop

end SootheClient.Session
