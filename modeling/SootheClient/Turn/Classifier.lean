import SootheClient.Frame.EventMessage
import SootheClient.Frame.Next
import SootheClient.Turn.Boundary
import SootheClient.Turn.ThinkingStep

/-!
# The event classifier

`EventClassifier` maps a decoded daemon event, with the text accumulated so far, to a streaming,
deliverable or failed outcome. Parsing a string as a JSON object is the parameter `fromStr`.
-/

namespace SootheClient.Turn

open SootheClient.Frame
open Json (Members)

def EVENT_LOOP_HISTORY_REPLAYED : String := "soothe.lifecycle.loop.history.replayed"
def EVENT_FINAL_REPORT : String := "soothe.output.autonomous.final_report.reported"
def EVENT_STREAM_TOOL_CALL_UPDATE : String := "soothe.stream.tool_call.update"
def EVENT_TOOL_CALL_UPDATES_BATCH : String := "tool_call_updates_batch"

/-- Default deliverable phases. -/
def DEFAULT_DELIVERABLE_PHASES : List String :=
  ["quiz", "goal_completion", "chitchat", "text_completion", "image_to_text", "ocr", "embed"]

/-- How a processed event should end the query loop. -/
inductive ChatEventTerminal where
  | continue
  | deliverableComplete
  | failedComplete
  deriving DecidableEq, Repr

/-- Structured outcome of classifying one daemon event. -/
structure ChatEventResult where
  content : String := ""
  thinkingStep : String := ""
  terminal : ChatEventTerminal := .continue
  completionEvent : String := ""
  error : Option String := none
  deriving DecidableEq, Repr

/-- Product-specific classifier knobs. -/
structure ClassifierConfig where
  deliverablePhases : List String := []
  minDeliverableRunes : ℕ := 8
  thinkingStepEvents : Option (List String) := none
  treatStatusIdleAsComplete : Bool := false
  treatStreamEndAsComplete : Bool := false
  gateTurnEndSignals : Bool := false

/-- A classifier: its phases are not empty and its threshold is positive. -/
structure EventClassifier where
  cfg : ClassifierConfig
  phases_ne : cfg.deliverablePhases ≠ []
  runes_pos : 0 < cfg.minDeliverableRunes

/-- Construct a classifier; `none` when there are no deliverable phases. -/
def EventClassifier.new (cfg : ClassifierConfig) : Option EventClassifier :=
  if h : cfg.deliverablePhases = [] then none
  else if h0 : cfg.minDeliverableRunes = 0 then
    some ⟨{ cfg with minDeliverableRunes := 8 }, h, Nat.succ_pos 7⟩
  else some ⟨cfg, h, Nat.pos_of_ne_zero h0⟩

/-- The classifier with the default phases. -/
def EventClassifier.withDefaults : EventClassifier :=
  ⟨{ deliverablePhases := DEFAULT_DELIVERABLE_PHASES }, by decide, by decide⟩

/-! ## Reading messages -/

def isStatusMessage (msg : Json) : Bool :=
  msg.getStr "type" = some "status" || ((msg.get "state").isSome && (msg.get "mode").isNone)

/-- The event type: `data.type`, or the namespace. -/
def eventMessageEventType (msg : Json) : String :=
  match ((msg.get "data").bind fun d => d.getStr "type").filter (· ≠ "") with
  | some t => t
  | none =>
    match msg.get "namespace" with
    | some (.str s) => s
    | some (.arr items) => String.intercalate "." (items.filterMap Json.asStr?)
    | _ => ""

def isStreamingMessageType (msgType : String) : Bool :=
  ["AIMessageChunk", "ai_chunk", "message_chunk"].contains msgType

def isTerminalMessageType (msgType : String) : Bool :=
  ["AIMessage", "ai", "assistant"].contains msgType

/-- A string member, empty when it is absent or no string. -/
def strMember (m : Members) (key : String) : String := ((m.get key).bind Json.asStr?).getD ""

/-- The concatenated texts of content blocks. -/
def joinBlocks (text : Json → String) (items : List Json) : String :=
  items.foldl (fun buf item => buf ++ text item) ""

def extractContentFromMessage (msgMap : Members) : String :=
  let direct := strMember msgMap "content"
  if direct ≠ "" then direct
  else
    let joined :=
      joinBlocks blockPlainText (((msgMap.get "content").bind Json.asArray?).getD [])
    if joined ≠ "" then joined
    else
      joinBlocks (fun blk => blk.getStrD "text")
        (((msgMap.get "content_blocks").bind Json.asArray?).getD [])

/-- The first item of the data of a `messages` event, when it is an object. -/
def firstMessage (data : Json) : Option Members :=
  (data.asArray?.bind List.head?).bind Json.asObject?

/-- Type, content and phase of the first message, and whether there is one. -/
def firstMessagePayload (data : Json) : String × String × String × Bool :=
  match firstMessage data with
  | none => ("", "", "", false)
  | some m => (strMember m "type", extractContentFromMessage m, strMember m "phase", true)

def messagesModeAssistantContent (msg : Json) : Option String :=
  if msg.getStr "mode" ≠ some "messages" then none
  else
    match (msg.get "data").bind firstMessage with
    | none => none
    | some msgMap =>
      if Text.trim (strMember msgMap "phase") ≠ "" then none
      else
        let msgType := strMember msgMap "type"
        if msgType ≠ "" ∧ !isTerminalMessageType msgType then none
        else Text.nonBlank (extractContentFromMessage msgMap)

def isSubscriptionMetadataMap (data : Members) : Bool :=
  data.containsKey "loop_id" && data.containsKey "latest_seq" &&
    ["content", "text", "response", "output", "message", "report", "answer"].all fun key =>
      Text.trim (strMember data key) = ""

def CONTENT_KEYS : List String :=
  ["final_stdout_message", "completion_summary", "content", "text", "response", "output",
    "message", "report"]

/-- The first non-empty string under the content keys. -/
def firstContent (data : Members) : Option String :=
  CONTENT_KEYS.findSome? fun key => ((data.get key).bind Json.asStr?).filter (· ≠ "")

def extractContentFromData (data : Members) : Option String :=
  if isSubscriptionMetadataMap data then none
  else
    match firstContent data with
    | some content => some content
    | none =>
      match (data.get "data").bind Json.asObject? with
      | none => none
      | some nested => if isSubscriptionMetadataMap nested then none else firstContent nested

def isNamespaceMatch (ns dataType pattern : String) : Bool :=
  Text.contains dataType pattern || Text.contains ns pattern

def normalizeEventData (fromStr : String → Option Members) : Json → Option Members
  | .obj m => some m
  | .str s => fromStr s
  | _ => none

def thinkingStepResult (step : String) : ChatEventResult := { thinkingStep := Text.trim step }

/-! ## Outcomes -/

namespace EventClassifier

variable (fromStr : String → Option Members) (cl : EventClassifier)

def isDeliverableLoopPhase (phase : String) : Bool := cl.cfg.deliverablePhases.contains phase

/-- A persisted completion event is user-facing. -/
def isDeliverableCompletionEvent (eventType : String) : Bool :=
  let eventType := Text.trim eventType
  if eventType = "" then false
  else if ["status.idle", "status.stopped", STREAM_END, "idle_timeout", "query_timeout",
      "stream_closed"].contains eventType then true
  else if eventType = EVENT_FINAL_REPORT then true
  else
    match Text.stripPrefix eventType "soothe.protocol.message." with
    | some phase => cl.isDeliverableLoopPhase phase
    | none => Text.contains eventType "soothe.output" && Text.contains eventType "responded"

/-- The trimmed text is long enough to persist as final. -/
def isSubstantiveAssistantReply (content : String) : Bool :=
  cl.cfg.minDeliverableRunes ≤ (Text.trim content).length

/-- The user-visible reply of a completed query. -/
def resolveDeliverableFinalContent (r : ChatEventResult) (accumulated : String) : Option String :=
  if r.terminal ≠ .deliverableComplete then none
  else if !cl.isDeliverableCompletionEvent r.completionEvent then none
  else
    match Text.nonBlank r.content with
    | some trimmed => some trimmed
    | none =>
      match Text.nonBlank accumulated with
      | some acc => if cl.isSubstantiveAssistantReply acc then some acc else none
      | none => none

def deliverableResult (content completionEvent : String) : ChatEventResult :=
  { content := content, terminal := .deliverableComplete, completionEvent := completionEvent }

def continueResult (content : String) : ChatEventResult := { content := content }

def failedResult (err : String) : ChatEventResult :=
  { terminal := .failedComplete, error := some err }

def isFinalOutputEvent (dataType ns : String) : Bool :=
  let combined := s!"{dataType} {ns}"
  Text.contains combined "final_report" ||
    cl.cfg.deliverablePhases.any fun phase => Text.contains combined phase

def processStatus (msg : Json) (accumulated : String) (gate : Option TurnLifecycleGate) :
    ChatEventResult :=
  let state := msg.getStrD "state"
  if cl.cfg.treatStatusIdleAsComplete && Text.eqIgnoreAsciiCase state "idle" &&
      cl.isSubstantiveAssistantReply accumulated then
    if cl.cfg.gateTurnEndSignals && !gate.any (·.allowIdleComplete (frameTurnId msg)) then {}
    else deliverableResult (Text.trim accumulated) "status.idle"
  else {}

def processEnvelopeError (msg : Json) : ChatEventResult :=
  let err := (msg.get "error").bind Json.asObject?
  let code := ((err.bind (·.get "code")).bind Json.asI64?).getD (-32603)
  let message := ((err.bind (·.get "message")).bind Json.asStr?).getD ""
  failedResult s!"daemon error [{code}]: {message}"

/-- The outcome of a loop-tagged assistant message. -/
def loopMessageResult (msg : Json) : Option ChatEventResult :=
  match (EventMessage.fromValue msg).bind EventMessage.loopAiMessage with
  | none => none
  | some loopMsg =>
    let content := loopMsg.loopAiText
    if content = "" then none
    else if isStreamingMessageType (loopMsg.type.getD "") then some (continueResult content)
    else
      match loopMsg.phase with
      | some phase =>
        if cl.isDeliverableLoopPhase phase && cl.isSubstantiveAssistantReply content then
          some (deliverableResult content s!"soothe.protocol.message.{phase}")
        else some (continueResult content)
      | none => some (continueResult content)

/-- The outcome of a `messages` event, when its first message decides it. -/
def messagesResult (msg data : Json) : Option ChatEventResult :=
  let (msgType, rawContent, phase, hasPayload) := firstMessagePayload data
  if hasPayload && rawContent ≠ "" && isStreamingMessageType msgType then
    some (continueResult rawContent)
  else
    match cl.loopMessageResult msg with
    | some r => some r
    | none =>
      match messagesModeAssistantContent msg with
      | some content => some (continueResult content)
      | none =>
        if hasPayload && rawContent ≠ "" then
          if (isTerminalMessageType msgType || msgType = "") && cl.isDeliverableLoopPhase phase &&
              cl.isSubstantiveAssistantReply rawContent then
            some (deliverableResult rawContent s!"soothe.protocol.message.{phase}")
          else some (continueResult rawContent)
        else none

/-- The outcome of an error event. -/
def errorEventResult (ns dataType : String) (dataMap : Members) : ChatEventResult :=
  let errType := if dataType = "" then ns else dataType
  let message := strMember dataMap "message"
  if message ≠ "" then failedResult s!"{errType}: {message}"
  else
    match extractContentFromData dataMap with
    | some content => failedResult s!"{errType}: {content}"
    | none => failedResult errType

/-- The outcome of the data of an event, by its type and namespace. -/
def dataResult (ns : String) (dataMap : Members) : ChatEventResult :=
  let dataType := strMember dataMap "type"
  let completionEvent := if dataType = "" then ns else dataType
  let content := extractContentFromData dataMap
  let isMatch := isNamespaceMatch ns dataType
  match (if isMatch "soothe.output" || isMatch "responded" then content else none) with
  | some content =>
    if cl.isFinalOutputEvent dataType ns then deliverableResult content completionEvent
    else continueResult content
  | none =>
    match (if isMatch "agent_loop.completed" || isMatch "agent_loop.reasoned" ||
        isMatch "loop.completed" then content else none) with
    | some content => continueResult content
    | none =>
      match (if isMatch "final_report" then content else none) with
      | some content => deliverableResult content completionEvent
      | none =>
        if Text.contains dataType "soothe.error." || Text.contains ns "soothe.error." then
          errorEventResult ns dataType dataMap
        else if isMatch "stream" || isMatch "progress" || isMatch EVENT_TOOL_CALL_UPDATES_BATCH ||
            isMatch EVENT_STREAM_TOOL_CALL_UPDATE then
          match (dataMap.get "delta").bind Json.asStr? with
          | some delta => continueResult delta
          | none => {}
        else {}

/-- The outcome of replay markers and thinking steps. -/
def stepResult (eventType : String) (dataMap : Members) : Option ChatEventResult :=
  let dataType := if strMember dataMap "type" = "" then eventType else strMember dataMap "type"
  if dataType = EVENT_LOOP_HISTORY_REPLAYED then some {}
  else (extractThinkingStep cl.cfg.thinkingStepEvents dataType dataMap).map thinkingStepResult

/-- The outcome of a terminal custom payload. -/
def turnEndResult (msg data : Json) (accumulated : String) (gate : Option TurnLifecycleGate) :
    ChatEventResult :=
  let frameTurn := (frameTurnId data).or (frameTurnId msg)
  if cl.cfg.treatStreamEndAsComplete && cl.isSubstantiveAssistantReply accumulated &&
      gate.any (·.allowStreamEnd frameTurn) then
    deliverableResult (Text.trim accumulated) STREAM_END
  else {}

def processEventMessage (msg : Json) (accumulated : String) (gate : Option TurnLifecycleGate) :
    ChatEventResult :=
  let mode := msg.getStrD "mode"
  let data := (msg.get "data").getD .null
  let eventType := eventMessageEventType msg
  let dataMap := normalizeEventData fromStr data
  match dataMap.bind (cl.stepResult eventType) with
  | some r => r
  | none =>
    if mode = "custom" && isTurnEndCustomData data then
      cl.turnEndResult msg data accumulated gate
    else
      match (if mode = "messages" then cl.messagesResult msg data else none) with
      | some r => r
      | none =>
        match dataMap with
        | none => {}
        | some dataMap => cl.dataResult eventType dataMap

/-- The code of a bare error object: a string or an integer. -/
def codeText (code : Json) : String :=
  match code.asStr? with
  | some s => s
  | none =>
    match code.asI64? with
    | some n => toString n
    | none => "unknown"

def processChatEvent (msg : Json) (accumulated : String) (gate : Option TurnLifecycleGate) :
    ChatEventResult :=
  let msg := unwrapNext msg
  if isStatusMessage msg then cl.processStatus msg accumulated gate
  else
    let msgType := msg.getStrD "type"
    if msgType = "error" then processEnvelopeError msg
    else if ["response", "next", "complete", "receipt_response"].contains msgType then {}
    else if (msgType = "event" ∨ msgType = "") ∧ (msg.get "mode").isSome then
      cl.processEventMessage fromStr msg accumulated gate
    else
      match msg.get "code", msg.get "message" with
      | some code, some message =>
        let text := (message.asStr?).getD ""
        failedResult s!"daemon error [{codeText code}]: {text}"
      | _, _ => {}

/-- Classify one decoded event. -/
def classify (msg : Json) (accumulated : String) : ChatEventResult :=
  cl.processChatEvent fromStr msg accumulated none

end EventClassifier

end SootheClient.Turn
