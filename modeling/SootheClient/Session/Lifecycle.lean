import SootheClient.Frame.ChunkFilter
import SootheClient.Lib.Lts
import SootheClient.Session.Bootstrap
import SootheClient.Session.ForeignLoops

/-!
# The life of a session

The methods of a session that one task calls, one after another: it connects, starts and switches
loops, recovers the stream, sends inputs, reads turns and asks the sidecar. An input names the loop
that the stream was last subscribed to; that the subscription is on the present connection holds as
long as no attempt to connect fails half-way.
-/

namespace SootheClient.Session.Lifecycle

open SootheClient.Frame
open Json (Members)
open Script

/-! ## The methods -/

/-- The options of a session. -/
structure DaemonSessionOptions where
  workspace : Option String := none
  streamDelivery : String := "adaptive"
  earlyDrop : List Json → String → Json → Bool := shouldDropStreamChunkEarly

/-- The options of `send_turn`. -/
structure SendTurnOptions where
  preferredSubagent : Option String := none
  intakeScope : Option String := none
  model : Option String := none
  modelParams : Option Json := none
  attachments : Option Json := none
  clarificationMode : Option String := none
  clarificationAnswer : Bool := false
  intentHint : Option String := none
  interactionMode : Option String := none
  autopilotRailId : Option String := none

/-- The members that `send_input` writes into the params. -/
def SendTurnOptions.fields (opts : SendTurnOptions) (text loopId : String) :
    List (String × Option Json) :=
  [("content", some (.str text)), ("loop_id", some (.str loopId)),
    ("preferred_subagent", opts.preferredSubagent.map .str),
    ("intake_scope", opts.intakeScope.map .str), ("model", opts.model.map .str),
    ("model_params", opts.modelParams), ("attachments", opts.attachments),
    ("intent_hint", opts.intentHint.map .str),
    ("clarification_mode", opts.clarificationMode.map .str),
    ("clarification_answer", if opts.clarificationAnswer then some (.bool true) else none),
    ("interaction_mode", opts.interactionMode.map .str),
    ("autopilot_rail_id", opts.autopilotRailId.map .str)]

def SendTurnOptions.params (opts : SendTurnOptions) (text loopId : String) : Members :=
  Members.insertAll [] (opts.fields text loopId)

namespace DaemonSession

variable (opts : DaemonSessionOptions)

/-- The loop that was bootstrapped is stored. -/
def store (ready : Members) : Method Members :=
  match (ready.get "loop_id").bind Json.asStr? with
  | some loopId => .call (.setLoopId loopId) fun _ => Method.ok ready
  | none => Method.ok ready

def bootstrapLoop (resumeLoopId : Option String) : Method Members :=
  (bootstrapLoopSession .stream
    { resumeLoopId := resumeLoopId
      workspace := opts.workspace
      streamDelivery := opts.streamDelivery } (30 * SECOND)).andThen store

def connect (resumeLoopId : Option String) : Method Members :=
  (connectWithRetries .stream 40 (250 * MILLISECOND)).andThen fun _ =>
  bootstrapLoop opts resumeLoopId

def newLoop : Method Members := bootstrapLoop opts none

def switchLoop (loopId : String) : Method Members := bootstrapLoop opts (some loopId)

/-- A loop that cannot be reattached: the sidecar is closed, and a new loop started. -/
def startOver : Method Unit :=
  .call (.close .rpc) fun _ =>
  .call (.setRpcConnected false) fun _ =>
  (bootstrapLoop opts none).andThen fun _ => Method.ok ()

/-- The loop of a session that was connected again. -/
def recover (loopId : String) : Method Unit :=
  if loopId = "" then (bootstrapLoop opts none).andThen fun _ => Method.ok ()
  else
    (reattachAndProbe .stream loopId).bind fun
      | .ok () => Method.ok ()
      | .error _ => startOver opts

def ensureConnected : Method Unit :=
  .call (.isConnectionAlive .stream) fun alive =>
  if alive then Method.ok ()
  else
    (connectWithRetries .stream 40 (250 * MILLISECOND)).andThen fun _ =>
    .call .loopId fun loopId => recover opts loopId

def close : Method Unit :=
  .call (.close .stream) fun _ =>
  .call (.close .rpc) fun _ =>
  .call (.setRpcConnected false) fun _ => Method.ok ()

def detach : Method Unit := ask (.notify .stream "disconnect" [])

def sendTurn (text : String) (turn : SendTurnOptions) : Method Unit :=
  .call .loopId fun loopId =>
  if loopId = "" then Method.fail (.message "no active loop session")
  else ask (.notify .stream "loop_input" (turn.params text loopId))

def cancelActiveTurn : Method Unit :=
  ask (.notify .stream "slash_command" [("cmd", .str "/cancel")])

def ensureRpcConnected : Method Unit :=
  .call .rpcConnected fun flag =>
  .call (.isConnected .rpc) fun up =>
  if flag && up then Method.ok ()
  else
    (connectWithRetries .rpc 5 (250 * MILLISECOND)).andThen fun _ =>
    .call (.setRpcConnected true) fun _ => Method.ok ()

/-- A request on the sidecar. -/
def rpcRequest (method : String) (params : Members) (timeout : ℕ) : Method Members :=
  ensureRpcConnected.andThen fun _ => ask (.request .rpc method params timeout)

def listLoops (limit : ℕ) : Method Members :=
  rpcRequest "loop_list" [("limit", .num (.int (if limit = 0 then 20 else limit)))] (15 * SECOND)

def fetchLoopHistory (loopId : String) : Method Members :=
  rpcRequest "loop_history_fetch" (loopParams loopId) (30 * SECOND)

def invokeSkill (skill args : String) (interactionMode : Option String) : Method Members :=
  rpcRequest "invoke_skill"
    (Members.insertAll [] [("skill", some (.str skill)),
      ("args", if args = "" then none else some (.str args)),
      ("interaction_mode", interactionMode.map .str)]) (120 * SECOND)

def setClarificationMode (mode : String) (interactionMode : Option String) : Method Bool :=
  .call .loopId fun loopId =>
  if loopId = "" then Method.ok false
  else
    (rpcRequest "loop_set_clarification_mode"
      (Members.insertAll [] [("loop_id", some (.str loopId)), ("mode", some (.str mode)),
        ("interaction_mode", interactionMode.map .str)]) (5 * SECOND)).andThen fun result =>
    Method.ok (((result.get "applied").bind Json.asBool?).getD false)

end DaemonSession

/-! ## Sessions -/

/-- A method with its arguments. -/
inductive Op where
  | connect (resumeLoopId : Option String)
  | newLoop
  | switchLoop (loopId : String)
  | ensureConnected
  | close
  | detach
  | sendTurn (text : String) (turn : SendTurnOptions)
  | cancelActiveTurn
  | listLoops (limit : ℕ)
  | fetchLoopHistory (loopId : String)
  | invokeSkill (skill args : String) (interactionMode : Option String)
  | setClarificationMode (mode : String) (interactionMode : Option String)

/-- The method without its value. -/
def Method.void {α : Type} (m : Method α) : Method Unit := m.andThen fun _ => Method.ok ()

def Op.script (opts : DaemonSessionOptions) : Op → Method Unit
  | .connect resumeLoopId => (DaemonSession.connect opts resumeLoopId).void
  | .newLoop => (DaemonSession.newLoop opts).void
  | .switchLoop loopId => (DaemonSession.switchLoop opts loopId).void
  | .ensureConnected => DaemonSession.ensureConnected opts
  | .close => DaemonSession.close
  | .detach => DaemonSession.detach
  | .sendTurn text turn => DaemonSession.sendTurn text turn
  | .cancelActiveTurn => DaemonSession.cancelActiveTurn
  | .listLoops limit => (DaemonSession.listLoops limit).void
  | .fetchLoopHistory loopId => (DaemonSession.fetchLoopHistory loopId).void
  | .invokeSkill skill args mode => (DaemonSession.invokeSkill skill args mode).void
  | .setClarificationMode mode interaction =>
    (DaemonSession.setClarificationMode mode interaction).void

/-- A method with the replies to its calls, or a turn that is read. -/
inductive Act where
  | op (op : Op) (replies : List Reply)
  | turn (maxWait : Option ℕ) (queued late : List Tick) (dropped : ℕ)

/-- A status frame may name the loop of a session. -/
def World.adopt (w : World) (loopId : String) : World :=
  if loopId = w.loopId then w else { w with loopId := loopId }.note .stream (.adopt loopId)

/-- The result of a method and the world after it. -/
def World.perform (opts : DaemonSessionOptions) (w : World) (op : Op) (replies : List Reply) :
    Option (Except Error Unit × World) :=
  match (op.script opts).run handle replies w with
  | some (res, [], w') => some (res, w')
  | _ => none

def World.step (opts : DaemonSessionOptions) (w : World) : Act → Option World
  | .op op replies => (w.perform opts op replies).map Prod.snd
  | .turn maxWait queued late dropped =>
    (iterTurnChunks opts.earlyDrop maxWait { loopId := w.loopId } queued late dropped).map fun r =>
      w.adopt r.session.loopId

end SootheClient.Session.Lifecycle
