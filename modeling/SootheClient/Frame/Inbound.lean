import SootheClient.Frame.StreamTerminal

/-!
# Inbound frames

What the reader task asks of a frame: whether it is acknowledged and for which loop, the frames of
a batch, and its drop priority in a full queue. Lower priorities are kept longer.
-/

namespace SootheClient.Frame

open Json (Members)

/-- Never drop: terminals, status, errors. -/
def DROP_PRIORITY_CRITICAL : ℤ := 0

/-- Prefer keep: cognition and tool batches. -/
def DROP_PRIORITY_HIGH : ℤ := 1

/-- Default drop candidate: streaming chunks. -/
def DROP_PRIORITY_NORMAL : ℤ := 2

/-- Pending-event cap. -/
def DEFAULT_INBOUND_MAX_SIZE : ℕ := 20000

def valueAsStr (v : Option Json) : String := (v.bind Json.asStr?).getD ""

/-- The first item of an array, when it is an object. -/
def firstObject (data : Option Json) : Option Members :=
  ((data.bind Json.asArray?).bind List.head?).bind Json.asObject?

/-- The first message of the data is a `stream.end`. -/
def messagesWireTerminal (data : Option Json) : Bool :=
  match firstObject data with
  | none => false
  | some body =>
    let t := valueAsStr (body.get "type")
    t = STREAM_END || Text.contains t "stream.end"

/-- The first message of the data is of the phase `goal_completion`. -/
def goalCompletion (data : Option Json) : Bool :=
  (firstObject data).any fun first => valueAsStr (first.get "phase") = "goal_completion"

/-- The priority of a `custom` payload. -/
def customDropPriority (data : Json) : Option ℤ :=
  if isTurnEndCustomData data then some DROP_PRIORITY_CRITICAL
  else
    match data.asObject? with
    | none => none
    | some m =>
      let customType := valueAsStr (m.get "type")
      if Text.startsWith customType "soothe.cognition." then some DROP_PRIORITY_HIGH
      else if Text.startsWith customType "soothe.error." ∨ customType = "stream_degraded" then
        some DROP_PRIORITY_CRITICAL
      else if customType = "soothe.ux.stream_tool_wire.tool_call_updates_batch" then
        some DROP_PRIORITY_HIGH
      else none

/-- The priority of a frame by its type. -/
def typeDropPriority (event : Members) (eventType : String) : ℤ :=
  if ["complete", "error", "connection_ack"].contains eventType then DROP_PRIORITY_CRITICAL
  else if eventType = "status" ∧
      ["idle", "running", "stopped", "detached"].contains (valueAsStr (event.get "state")) then
    DROP_PRIORITY_CRITICAL
  else if eventType = "event" then
    let mode := valueAsStr (event.get "mode")
    let data := event.get "data"
    match (if mode = "custom" then data.bind customDropPriority else none) with
    | some priority => priority
    | none =>
      if mode = "messages" ∧ (messagesWireTerminal data ∨ goalCompletion data) then
        DROP_PRIORITY_CRITICAL
      else DROP_PRIORITY_NORMAL
  else DROP_PRIORITY_NORMAL

theorem sizeOf_lt_of_get {m : Members} {key : String} {v : Json} (h : m.get key = some v) :
    sizeOf v < sizeOf m := by
  unfold Members.get at h
  induction m with
  | nil => cases h
  | cons kv m ih =>
    obtain ⟨k, w⟩ := kv
    rw [List.lookup_cons] at h
    cases hk : key == k with
    | true =>
      rw [hk] at h
      obtain rfl := Option.some.inj h
      simp only [List.cons.sizeOf_spec, Prod.mk.sizeOf_spec]
      omega
    | false =>
      rw [hk] at h
      have hm := ih h
      simp only [List.cons.sizeOf_spec]
      omega

/-- An object under a key is smaller. -/
theorem sizeOf_lt_of_getObject {m inner : Members} {key : String}
    (h : (m.get key).bind Json.asObject? = some inner) : sizeOf inner < sizeOf m := by
  obtain ⟨v, hv, hobj⟩ := Option.bind_eq_some_iff.1 h
  have hlt := sizeOf_lt_of_get hv
  cases v with
  | obj members =>
    obtain rfl := Option.some.inj hobj
    rw [Json.obj.sizeOf_spec] at hlt
    omega
  | null | bool | num | str | arr => cases hobj

/-- The drop priority of an object; a `next` frame has that of the object it carries. -/
def objectDropPriority (event : Members) : ℤ :=
  let eventType := valueAsStr (event.get "type")
  if eventType = "event_batch" ∨ eventType = "tool_call_updates_batch" then DROP_PRIORITY_HIGH
  else if eventType = "next" then
    match hp : (event.get "payload").bind Json.asObject? with
    | none => typeDropPriority event eventType
    | some payload =>
      let innerData := payload.get "data"
      if valueAsStr (payload.get "mode") = "messages" ∧
          (messagesWireTerminal innerData ∨ goalCompletion innerData) then DROP_PRIORITY_CRITICAL
      else if valueAsStr (payload.get "type") = "complete" then DROP_PRIORITY_CRITICAL
      else
        match hi : (payload.get "data").bind Json.asObject? with
        | some inner =>
          have : sizeOf inner < sizeOf event :=
            (sizeOf_lt_of_getObject hi).trans (sizeOf_lt_of_getObject hp)
          objectDropPriority inner
        | none => typeDropPriority event (valueAsStr (payload.get "type"))
  else typeDropPriority event eventType
termination_by sizeOf event

def inboundFrameDropPriority : Option Members → ℤ
  | none => DROP_PRIORITY_CRITICAL
  | some event => objectDropPriority event

/-- The event is terminal for its loop. -/
def inboundNeedsAckFromEventShape (event : Members) : Bool :=
  let mode := valueAsStr (event.get "mode")
  let data := event.get "data"
  if mode = "custom" && isTurnEndCustomData (data.getD .null) then true
  else mode = "messages" && messagesWireTerminal data

/-- The frame is acknowledged to the daemon. -/
def inboundNeedsDeliveryAck (event : Json) : Bool :=
  match event.asObject? with
  | none => false
  | some obj =>
    match valueAsStr (obj.get "type") with
    | "complete" => true
    | "next" =>
      match (obj.get "payload").bind Json.asObject? with
      | none => false
      | some payload =>
        match (payload.get "data").bind Json.asObject? with
        | none => false
        | some inner =>
          valueAsStr (payload.get "mode") = "event" && inboundNeedsAckFromEventShape inner
    | "event" => inboundNeedsAckFromEventShape obj
    | _ => false

/-- The loop id of a frame, of the payload of a `next` frame or of its data. -/
def extractLoopIdFromInbound (event : Json) : String :=
  match event.asObject? with
  | none => ""
  | some obj =>
    let direct := Text.trim (valueAsStr (obj.get "loop_id"))
    if direct ≠ "" then direct
    else if valueAsStr (obj.get "type") ≠ "next" then ""
    else
      match (obj.get "payload").bind Json.asObject? with
      | none => ""
      | some payload =>
        let fromPayload := Text.trim (valueAsStr (payload.get "loop_id"))
        if fromPayload ≠ "" then fromPayload
        else
          match (payload.get "data").bind Json.asObject? with
          | none => ""
          | some inner => Text.trim (valueAsStr (inner.get "loop_id"))

/-- The frames of a message: the events of a non-empty batch, or the message. -/
def expandWireMessages (msg : Json) : List Json :=
  if msg.getStr "type" ≠ some "event_batch" then [msg]
  else
    match (msg.get "events").bind Json.asArray? with
    | some (event :: events) => event :: events
    | _ => [msg]

end SootheClient.Frame
