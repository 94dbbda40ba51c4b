import SootheClient.Lib.Json

/-!
# Event messages

The typed event frame and the loop-tagged assistant message inside a `messages` event.
-/

namespace SootheClient.Frame

open Json (Members)

/-- Base fields of a message. -/
structure BaseMessage where
  requestId : Option String
  type : Option String

/-- Streaming event frame from the daemon. -/
structure EventMessage where
  base : BaseMessage
  loopId : Option String
  ns : Option Json
  mode : Option String
  data : Option Json
  timestamp : Option String

/-- An optional string field: absent and null are `none`, another type is an error. -/
def optStr (m : Members) (key : String) : Option (Option String) :=
  match m.get key with
  | none | some .null => some none
  | some (.str s) => some (some s)
  | some _ => none

/-- An optional field of any type. -/
def optValue (m : Members) (key : String) : Option Json :=
  match m.get key with
  | none | some .null => none
  | some v => some v

/-- `serde_json::from_value::<EventMessage>`. -/
def EventMessage.fromValue (v : Json) : Option EventMessage := do
  let m ← v.asObject?
  let requestId ← optStr m "request_id"
  let type ← optStr m "type"
  let loopId ← optStr m "loop_id"
  let mode ← optStr m "mode"
  let timestamp ← optStr m "timestamp"
  return { base := { requestId, type }, loopId, ns := optValue m "namespace", mode,
           data := optValue m "data", timestamp }

/-- Loop-tagged assistant payload of a `messages` event. -/
structure LoopAIMessage where
  type : Option String
  content : Option Json
  phase : Option String

/-- `phase` tags streamable loop assistant output. -/
def isLoopAssistantPhase (phase : String) : Bool :=
  ["goal_completion", "quiz", "autonomous_goal", "text_completion", "image_to_text", "ocr",
    "embed", "plan_direct", "chitchat"].contains phase

/-- The loop-tagged assistant message of a `messages` event. -/
def EventMessage.loopAiMessage (em : EventMessage) : Option LoopAIMessage :=
  if em.mode ≠ some "messages" then none
  else do
    let items ← em.data.bind Json.asArray?
    let first ← items.head?
    let msgMap ← first.asObject?
    let phaseStr := ((msgMap.get "phase").bind Json.asStr?).getD ""
    if phaseStr = "" then none
    else if !isLoopAssistantPhase phaseStr then none
    else
      let typeStr := ((msgMap.get "type").bind Json.asStr?).getD "ai"
      some { type := some typeStr, content := msgMap.get "content", phase := some phaseStr }

/-- The text of one content block: a string, or the `text` of an object. -/
def blockPlainText (item : Json) : String :=
  match item.asStr? with
  | some s => s
  | none => (item.getStr "text").getD ""

/-- Plain text of the content payload. -/
def LoopAIMessage.loopAiText (msg : LoopAIMessage) : String :=
  match msg.content with
  | some (.str s) => s
  | some (.arr items) => items.foldl (fun buf item => buf ++ blockPlainText item) ""
  | some (.obj obj) => ((Members.get obj "text").bind Json.asStr?).getD ""
  | _ => ""

end SootheClient.Frame
