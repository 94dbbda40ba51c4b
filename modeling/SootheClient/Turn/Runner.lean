import SootheClient.Lib.Scan
import SootheClient.Turn.Classifier
import SootheClient.Turn.Feed

/-!
# The turn runner

`run_turn` acquires a pooled connection, sends the message and reads the connection's event stream
until the turn ends. What it meets outside itself is an `Env`: the answers of the pool and of the
send, and one `Tick` for each iteration of its loop with the clocks it reads there. What it does
outside itself is the log of `Effect`s. Clocks and durations are in nanoseconds.
-/

namespace SootheClient.Turn

open SootheClient.Frame
open Json (Members)

/-- An error, by its display text. -/
structure Error where
  text : String
  deriving DecidableEq, Repr

/-- Timeout policy for idle, query and stream close. -/
inductive TimeoutPolicy where
  | fail
  | softComplete
  deriving DecidableEq, Repr

/-- Turn runner configuration. -/
structure TurnConfig where
  queryTimeout : ℕ := 30 * 60 * 10 ^ 9
  idleTimeout : ℕ := 0
  minIdleTimeoutWithAttachments : ℕ := 0
  onIdleTimeout : TimeoutPolicy := .fail
  onQueryTimeout : TimeoutPolicy := .fail
  onStreamClose : TimeoutPolicy := .fail
  compactAttachmentsBeforeSend : Bool := false

/-- Optional input knobs. -/
structure InputOpts where
  intentHint : Option String := none
  preferredSubagent : Option String := none
  intakeScope : Option String := none
  responseSchema : Option Json := none
  responseSchemaName : Option String := none
  responseSchemaStrict : Option Bool := none
  interactionMode : Option String := none

/-- The options of `send_input`, as `run_turn` sets them. -/
structure SendInputOptions extends InputOpts where
  loopId : Option String
  attachments : Option Json

/-- One server-sent event. -/
structure SseEvent where
  eventType : String
  data : Json

/-- What a turn does outside itself. -/
inductive Effect where
  | setSendCancel (sessionId loopId : String)
  | notify (method : String) (params : Members)
  | sendInput (message : String) (opts : SendInputOptions)
  | commandCancel (loopId : String)
  | appendMessage (sessionId : String) (message : Json)
  | broadcast (appKey : String) (event : SseEvent)
  | onComplete (sessionId loopId content completionEvent : String) (elapsedMs : ℤ)
  | onError (sessionId loopId : String) (err : Error)

/-- A runner: its classifier, with the JSON parser, its configuration and what is attached. -/
structure TurnRunner where
  classifier : EventClassifier
  fromStr : String → Option Members
  cfg : TurnConfig := {}
  broadcaster : Bool := false
  onComplete : Bool := false
  onError : Bool := false
  errorData : Option (Error → Json) := none
  inputBuilder : Option (String → String → Option Json → Option InputOpts → Members) := none
  compactAttachments : List Members → List Members := id

/-- The arguments of a call. -/
structure TurnCall where
  sessionId : String
  message : String
  attachments : Option Json := none
  opts : Option InputOpts := none

/-- What one read of the event stream gives. -/
inductive Recv where
  | missing
  | timedOut
  | closed (streamLive connectionAlive : Bool)
  | frame (msg : Json)

/-- What one iteration of the loop meets. -/
structure Tick where
  cancelled : Bool := false
  deadlineClock : ℕ := 0
  idleClock : ℕ := 0
  eventClock : ℕ := 0
  doneClock : ℕ := 0
  recv : Recv

/-- What a call meets: the pool's answer, the stream before the send, the answer of the send, the
clock after it and the iterations of the loop. -/
structure Env where
  acquired : Except Error String
  hasStream : Bool := true
  sent : Except Error Unit := .ok ()
  startedAt : ℕ := 0
  ticks : List Tick

/-- The result of a turn and the effects up to it. -/
abbrev Outcome := Except Error String × List Effect

/-- The locals of the loop and the effects so far. -/
structure TurnState where
  lastEvent : ℕ
  collected : String := ""
  boundary : TurnBoundary := {}
  armed : Bool := false
  log : List Effect

/-- What the loop does not change. -/
structure TurnCtx where
  sessionId : String
  loopId : String
  startedAt : ℕ
  idleForTurn : ℕ

/-- `as_millis() as i64`. -/
def asMillisI64 (d : ℕ) : ℤ := Int.bmod (d / 10 ^ 6 : ℕ) (2 ^ 64)

def idleTimeoutForTurn (cfg : TurnConfig) (hasAttachments : Bool) : ℕ :=
  if cfg.idleTimeout = 0 then 0
  else if hasAttachments ∧ cfg.minIdleTimeoutWithAttachments ≠ 0 ∧
      cfg.idleTimeout < cfg.minIdleTimeoutWithAttachments then
    cfg.minIdleTimeoutWithAttachments
  else cfg.idleTimeout

/-- Events that postpone the idle timeout. -/
def advancesIdleClock (result : ChatEventResult) : Bool :=
  Text.trim result.content ≠ "" || Text.trim result.thinkingStep ≠ "" ||
    result.terminal ≠ .continue

namespace TurnRunner

variable (r : TurnRunner) (c : TurnCtx)

/-! ## Bookkeeping -/

def broadcastEvent (appKey eventType : String) (data : Json) : List Effect :=
  if r.broadcaster then [.broadcast appKey ⟨eventType, data⟩] else []

def broadcastDelta (appKey delta : String) : List Effect :=
  r.broadcastEvent appKey "delta" (.str delta)

def broadcastThinkingStep (appKey step : String) : List Effect :=
  r.broadcastEvent appKey "thinking_step" (.str s!"{step}\n")

def broadcastComplete (appKey content : String) : List Effect :=
  r.broadcastEvent appKey "complete" (.str content)

/-- The payload of a `query_error` event. -/
def errorPayload (err : Error) : Json :=
  match r.errorData with
  | some fmt => fmt err
  | none => .str err.text

def broadcastError (appKey : String) (err : Error) : List Effect :=
  r.broadcastEvent appKey "query_error" (r.errorPayload err)

def completedMessage (content completionEvent : String) (elapsedMs : ℤ) : Json :=
  .obj [("role", .str "assistant"), ("content", .str content), ("status", .str "completed"),
    ("completion_event", .str completionEvent), ("deliverable", .bool true),
    ("duration_ms", .num (.int elapsedMs))]

def failedMessage (err : Error) : Json :=
  .obj [("role", .str "error"), ("status", .str "failed"), ("error_message", .str err.text)]

def completeTurn (log : List Effect) (content : String) (now : ℕ) (completionEvent : String) :
    Outcome :=
  let elapsedMs := asMillisI64 (now - c.startedAt)
  (.ok content, log ++
    .appendMessage c.sessionId (completedMessage content completionEvent elapsedMs) ::
      (r.broadcastComplete c.sessionId content ++
        if r.onComplete then [.onComplete c.sessionId c.loopId content completionEvent elapsedMs]
        else []))

/-- The effects of `fail_turn`. -/
def failTurn (sessionId loopId : String) (err : Error) : List Effect :=
  .appendMessage sessionId (failedMessage err) ::
    (r.broadcastError sessionId err ++ if r.onError then [.onError sessionId loopId err] else [])

/-- Fail the turn and return the error. -/
def failWith (log : List Effect) (err : Error) : Outcome :=
  (.error err, log ++ r.failTurn c.sessionId c.loopId err)

def finishTimeout (log : List Effect) (content : String) (now : ℕ) (completionEvent : String)
    (policy : TimeoutPolicy) : Outcome :=
  match policy with
  | .softComplete => r.completeTurn c log content now completionEvent
  | .fail => r.failWith c log ⟨completionEvent⟩

/-! ## The loop -/

/-- Add the content of an event: the text after it and the delta to broadcast. -/
def collect (collected content : String) : String × String :=
  if content = "" then (collected, "")
  else if Text.startsWith content collected then
    (content, String.ofList (content.toList.drop collected.length))
  else (collected ++ content, content)

/-- Take in the result of an event: the idle clock, the thinking step, the text and its delta. -/
def absorb (s : TurnState) (tick : Tick) (result : ChatEventResult) : TurnState :=
  let added := collect s.collected result.content
  let thinking :=
    if Text.trim result.thinkingStep ≠ "" then
      r.broadcastThinkingStep c.sessionId result.thinkingStep
    else []
  let deltas := if added.2 ≠ "" then r.broadcastDelta c.sessionId added.2 else []
  { s with
    lastEvent := if advancesIdleClock result then tick.eventClock else s.lastEvent
    collected := added.1
    log := s.log ++ thinking ++ deltas }

/-- End the turn on a deliverable or on a boundary that ended, or go on. -/
def conclude (s : TurnState) (tick : Tick) (result : ChatEventResult) (ended : Option String) :
    Scan.Step TurnState Outcome :=
  match (r.classifier.resolveDeliverableFinalContent result s.collected).filter
      fun _ => !isDaemonTurnEndEvent result.completionEvent with
  | some finalText =>
    .stop (r.completeTurn c s.log finalText tick.doneClock result.completionEvent)
  | none =>
    match ended with
    | some reason =>
      if Text.trim s.collected = "" then
        .stop (r.failWith c s.log ⟨s!"turn ended ({reason}) with no assistant content"⟩)
      else .stop (r.completeTurn c s.log s.collected tick.doneClock reason)
    | none => .next s

/-- An armed loop processes an event. -/
def processEvent (s : TurnState) (tick : Tick) (ev : Json) : Scan.Step TurnState Outcome :=
  let fed := feedBoundary s.boundary ev
  if fed.2.isSome && !s.armed then .next { s with boundary := {} }
  else
    let result := r.classifier.classify r.fromStr ev s.collected
    if result.terminal = .failedComplete then
      .stop (r.failWith c s.log ⟨result.error.getD "process event failed"⟩)
    else
      r.conclude c (r.absorb c { s with boundary := fed.1 } tick result) tick result fed.2

/-- The loop receives an event; until it is armed, terminals of earlier turns are skipped. -/
def onEvent (s : TurnState) (tick : Tick) (ev : Json) : Scan.Step TurnState Outcome :=
  if s.armed then r.processEvent c s tick ev
  else if isStaleTurnEndEvent ev then .next s
  else
    let s' := { s with armed := true, lastEvent := tick.eventClock }
    if isStatusRunningEvent ev then
      .next { s' with boundary := (feedBoundary s.boundary ev).1 }
    else r.processEvent c s' tick ev

/-- The stream has no more events for now. -/
def onClosed (s : TurnState) (tick : Tick) (streamLive connectionAlive : Bool) :
    Scan.Step TurnState Outcome :=
  if !streamLive || !connectionAlive then
    if r.cfg.onStreamClose = .softComplete ∧ Text.trim s.collected ≠ "" then
      .stop (r.completeTurn c s.log s.collected tick.doneClock "stream_closed")
    else .stop (r.failWith c s.log ⟨"event stream closed"⟩)
  else .next s

/-- The loop reads the event stream. -/
def onRecv (s : TurnState) (tick : Tick) : Recv → Scan.Step TurnState Outcome
  | .missing => .stop (.error ⟨"event stream missing"⟩, s.log)
  | .timedOut => .next s
  | .closed streamLive connectionAlive => r.onClosed c s tick streamLive connectionAlive
  | .frame ev => r.onEvent c s tick ev

def pastDeadline (tick : Tick) : Bool := c.startedAt + r.cfg.queryTimeout < tick.deadlineClock

def idleTooLong (s : TurnState) (tick : Tick) : Bool :=
  s.armed && c.idleForTurn ≠ 0 && c.idleForTurn < tick.idleClock - s.lastEvent

/-- One iteration of the loop. -/
def loopStep (s : TurnState) (tick : Tick) : Scan.Step TurnState Outcome :=
  if tick.cancelled then .stop (r.failWith c s.log ⟨"query cancelled"⟩)
  else if r.pastDeadline c tick then
    .stop (r.finishTimeout c (s.log ++ [.commandCancel c.loopId]) s.collected tick.doneClock
      "query_timeout" r.cfg.onQueryTimeout)
  else if idleTooLong c s tick then
    .stop (r.finishTimeout c (s.log ++ [.commandCancel c.loopId]) s.collected tick.doneClock
      "idle_timeout" r.cfg.onIdleTimeout)
  else r.onRecv c s tick tick.recv

/-! ## The call -/

def hasAttachments (attachments : Option Json) : Bool :=
  match attachments with
  | none => false
  | some v =>
    match v.asArray? with
    | some a => !a.isEmpty
    | none => true

/-- The attachments to send. -/
def sendAttachments (attachments : Option Json) : Option Json :=
  if r.cfg.compactAttachmentsBeforeSend then
    match attachments with
    | some (.arr items) =>
      some (.arr ((r.compactAttachments (items.filterMap Json.asObject?)).map .obj))
    | _ => none
  else attachments

/-- One member of a built input: the envelope's own members are left out, `params` is spread. -/
def addParam (params : Members) (member : String × Json) : Members :=
  if member.1 = "type" ∨ member.1 = "proto" ∨ member.1 = "method" then params
  else
    match member with
    | ("params", .obj nested) => nested.foldl (fun p kv => Members.insert p kv.1 kv.2) params
    | (k, v) => Members.insert params k v

/-- The message is sent: by the builder's parameters or by `send_input`. -/
def sendEffect (call : TurnCall) (loopId : String) : Effect :=
  let atts := r.sendAttachments call.attachments
  match r.inputBuilder with
  | some builder =>
    .notify "loop_input" ((builder call.message loopId atts call.opts).foldl addParam [])
  | none =>
    .sendInput call.message { call.opts.getD {} with loopId := some loopId, attachments := atts }

/-- The error of a failed send. -/
def sendError (e : Error) : Error :=
  if r.inputBuilder.isSome then ⟨s!"send message: {e.text}"⟩ else e

def ctx (call : TurnCall) (loopId : String) (startedAt : ℕ) : TurnCtx where
  sessionId := call.sessionId
  loopId := loopId
  startedAt := startedAt
  idleForTurn := idleTimeoutForTurn r.cfg (hasAttachments call.attachments)

/-- The locals at the first iteration. -/
def startState (call : TurnCall) (loopId : String) (startedAt : ℕ) : TurnState where
  lastEvent := startedAt
  log := [.setSendCancel call.sessionId loopId, r.sendEffect call loopId,
    .appendMessage call.sessionId
      (.obj [("role", .str "user"), ("content", .str call.message)])]

/-- The call: `none` while its loop goes on. -/
def runTurn (call : TurnCall) (env : Env) : Option Outcome :=
  match env.acquired with
  | .error e => some (.error e, [])
  | .ok loopId =>
    let c := r.ctx call loopId env.startedAt
    if !env.hasStream then
      some (r.failWith c [.setSendCancel call.sessionId loopId]
        ⟨s!"missing event stream for session {call.sessionId} (loop {loopId})"⟩)
    else
      match env.sent with
      | .error e =>
        some (r.failWith c [.setSendCancel call.sessionId loopId, r.sendEffect call loopId]
          (r.sendError e))
      | .ok _ =>
        (Scan.stopAt (r.loopStep c) (r.startState call loopId env.startedAt) env.ticks).map (·.2)

end TurnRunner

end SootheClient.Turn
