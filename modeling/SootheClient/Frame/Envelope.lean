import SootheClient.Frame.EventMessage
import SootheClient.Frame.LoopId
import SootheClient.Lib.Members

/-!
# Envelopes and typed messages

The `{proto, type, method, params, id}` envelope with its JSON encoding, the constructors of the
client's envelopes, and the dispatch of a decoded frame into a typed message.
-/

namespace SootheClient.Frame

open Json (Members)

/-- Protocol version string. -/
def PROTO_VERSION : String := "1"

/-- Client version reported in `connection_init`. -/
def CLIENT_VERSION : String := "0.3.12"

/-- Default capabilities declared in the handshake. -/
def DEFAULT_CLIENT_CAPABILITIES : List String := ["streaming", "batch", "heartbeat", "receipts"]

/-! ## Optional fields -/

/-- An optional field with its decoder: absent and null are `none`, another value is decoded. -/
def optField {α : Type} (dec : Json → Option α) (m : Members) (key : String) :
    Option (Option α) :=
  match m.get key with
  | none | some .null => some none
  | some v => (dec v).map some

/-- A string field with a default: it is not optional, so null is an error. -/
def strOrDefault (m : Members) (key : String) : Option String :=
  match m.get key with
  | none => some ""
  | some v => v.asStr?

/-! ## The envelope -/

/-- Structured error nested under `envelope.error`. -/
structure ErrorObject where
  code : Int64
  message : String
  data : Option Json

/-- The fields of an error as members. -/
def ErrorObject.fields (e : ErrorObject) : List (String × Option Json) :=
  [("code", some (.num (.int e.code.toInt))), ("message", some (.str e.message)), ("data", e.data)]

def ErrorObject.toValue (e : ErrorObject) : Json := .obj (Members.present e.fields)

/-- The code of an error. -/
def errorCode (v : Json) : Option Int64 := v.asI64?.map Int64.ofInt

/-- An error is decoded from an object, or from the sequence of its fields. -/
def ErrorObject.fromValue : Json → Option ErrorObject
  | .obj m => do
    let code ← (Members.get m "code").bind errorCode
    let message ← (Members.get m "message").bind Json.asStr?
    return { code, message, data := optValue m "data" }
  | .arr (code :: message :: rest) => do
    let code ← errorCode code
    let message ← message.asStr?
    match rest with
    | [] | [.null] => return { code, message, data := none }
    | [data] => return { code, message, data := some data }
    | _ => none
  | _ => none

/-- Unified envelope. -/
structure Envelope where
  proto : String
  msgType : String
  method : Option String
  params : Option Members
  id : Option String
  result : Option Members
  error : Option ErrorObject
  payload : Option Json
  receipt : Option String
  extra : Members

/-- The names of the fields on the wire. -/
def Envelope.names : List String :=
  ["proto", "type", "method", "params", "id", "result", "error", "payload", "receipt"]

/-- The fields as members. -/
def Envelope.fields (env : Envelope) : List (String × Option Json) :=
  [("proto", some (.str env.proto)), ("type", some (.str env.msgType)),
    ("method", env.method.map .str), ("params", env.params.map .obj), ("id", env.id.map .str),
    ("result", env.result.map .obj), ("error", env.error.map ErrorObject.toValue),
    ("payload", env.payload), ("receipt", env.receipt.map .str)]

/-- `Envelope::to_value`: the extra members are written after the fields. -/
def Envelope.toValue (env : Envelope) : Json :=
  .obj ((Members.present env.fields).extend env.extra)

/-- `serde_json::from_value::<Envelope>`. -/
def Envelope.fromValue (v : Json) : Option Envelope := do
  let m ← v.asObject?
  let proto ← strOrDefault m "proto"
  let msgType ← (m.get "type").bind Json.asStr?
  let method ← optStr m "method"
  let params ← optField Json.asObject? m "params"
  let id ← optStr m "id"
  let result ← optField Json.asObject? m "result"
  let error ← optField ErrorObject.fromValue m "error"
  let receipt ← optStr m "receipt"
  return { proto, msgType, method, params, id, result, error, payload := optValue m "payload",
           receipt, extra := m.filter fun kv => decide (kv.1 ∉ Envelope.names) }

/-! ## The client's envelopes -/

/-- An envelope with a class only. -/
def bareEnvelope (msgType : String) : Envelope where
  proto := PROTO_VERSION
  msgType := msgType
  method := none
  params := none
  id := none
  result := none
  error := none
  payload := none
  receipt := none
  extra := []

/-- Empty params are left out. -/
def nonEmptyParams (params : Members) : Option Members :=
  if params.isEmpty then none else some params

variable (newRequestId : String)

/-- Build a request envelope with a generated id. -/
def newRequest (method : String) (params : Members) : Envelope :=
  { bareEnvelope "request" with
    method := some method, params := nonEmptyParams params, id := some newRequestId }

/-- Build a request envelope with an explicit id; a blank one is generated. -/
def newRequestWithId (method : String) (params : Members) (id : String) : Envelope :=
  { bareEnvelope "request" with
    method := some method
    params := nonEmptyParams params
    id := some (if Text.trim id = "" then newRequestId else id) }

/-- Build a notification envelope. -/
def newNotification (method : String) (params : Members) : Envelope :=
  { bareEnvelope "notification" with method := some method, params := nonEmptyParams params }

/-- Build a subscribe envelope. -/
def newSubscribe (method : String) (params : Members) : Envelope :=
  { bareEnvelope "subscribe" with
    method := some method, params := nonEmptyParams params, id := some newRequestId }

/-- Build an unsubscribe envelope. -/
def newUnsubscribe (id : String) : Envelope := { bareEnvelope "unsubscribe" with id := some id }

/-- Build `connection_init`. -/
def newConnectionInit : Envelope :=
  { bareEnvelope "connection_init" with
    params := some (Members.insertAll []
      [("client_version", some (.str CLIENT_VERSION)),
        ("client_name", some (.str "soothe-client-rust")),
        ("accept_proto", some (.arr [.str PROTO_VERSION])),
        ("capabilities", some (.arr (DEFAULT_CLIENT_CAPABILITIES.map .str)))]) }

def newPing : Envelope := bareEnvelope "ping"

def newPong : Envelope := bareEnvelope "pong"

/-- Build a disconnect notification. -/
def newDisconnect : Envelope := newNotification "disconnect" []

/-! ## Typed messages -/

/-- Status acknowledgment. -/
structure StatusResponse where
  base : BaseMessage
  state : Option String
  loopId : Option String
  loopIdCamel : Option String
  workspace : Option String

/-- `serde_json::from_value::<StatusResponse>`. -/
def StatusResponse.fromValue (v : Json) : Option StatusResponse := do
  let m ← v.asObject?
  let requestId ← optStr m "request_id"
  let type ← optStr m "type"
  let state ← optStr m "state"
  let loopId ← optStr m "loop_id"
  let loopIdCamel ← optStr m "loopId"
  let workspace ← optStr m "workspace"
  return { base := { requestId, type }, state, loopId, loopIdCamel, workspace }

/-- Typed decoded message. -/
inductive TypedMessage where
  | envelope (env : Envelope)
  | event (em : EventMessage)
  | status (s : StatusResponse)
  | value (v : Json)

/-- The event of an object that carries one itself, in a loop. -/
def projectEvent (m : Members) (loopId : Option String) : EventMessage where
  base := { requestId := none, type := some "event" }
  loopId := loopId
  ns := m.get "namespace"
  mode := (m.get "mode").bind Json.asStr?
  data := m.get "data"
  timestamp := none

/-- Project the payload of a `next` envelope into an event: from the frame it wraps, or from the
payload itself. -/
def nextToEventMessage (env : Envelope) : Option EventMessage := do
  let payload ← env.payload.bind Json.asObject?
  let fromPayload :=
    if payload.containsKey "mode" || payload.containsKey "data" then
      some (projectEvent payload (nonEmptyStr payload "loop_id"))
    else none
  match (payload.get "data").bind Json.asObject? with
  | none => fromPayload
  | some inner =>
    let innerType := valueAsStr (inner.get "type")
    if (innerType = "event" || innerType = "") && inner.containsKey "mode" then
      some (projectEvent inner ((nonEmptyStr inner "loop_id").or (nonEmptyStr inner "loopId")))
    else fromPayload

/-- The classes that are decoded as envelopes. -/
def ENVELOPE_TYPES : List String :=
  ["connection_init", "connection_ack", "request", "response", "notification", "subscribe",
    "error", "complete", "unsubscribe", "ping", "pong", "receipt_response", "disconnect"]

/-- Dispatch a decoded JSON value into the typed variant. -/
def TypedMessage.fromValue (v : Json) : TypedMessage :=
  match v.getStr "type" with
  | none => .value v
  | some t =>
    if t ∈ ENVELOPE_TYPES then (Envelope.fromValue v).elim (.value v) .envelope
    else if t = "next" then
      match Envelope.fromValue v with
      | some env => (nextToEventMessage env).elim (.envelope env) .event
      | none => .value v
    else if t = "event" then (EventMessage.fromValue v).elim (.value v) .event
    else if t = "status" then (StatusResponse.fromValue v).elim (.value v) .status
    else .value v

/-! ## Decoding what was encoded -/

variable {m : Members} {key : String} {α : Type} {dec : Json → Option α} {enc : α → Json}

theorem optField_of_some {v : Json} (h : m.get key = some v) (hv : v ≠ .null) :
    optField dec m key = (dec v).map some := by
  unfold optField
  rw [h]
  cases v with
  | null => exact absurd rfl hv
  | _ => rfl

/-- A field whose encoding is decoded again and never null. -/
theorem optField_of_get (dec : Json → Option α) (enc : α → Json) {o : Option α}
    (hdec : ∀ a, o = some a → dec (enc a) = some a) (hnull : ∀ a, enc a ≠ .null)
    (h : m.get key = o.map enc) : optField dec m key = some o := by
  cases o with
  | none =>
    unfold optField
    rw [h]
    rfl
  | some a =>
    rw [optField_of_some h (hnull a), hdec a rfl]
    rfl

theorem optStr_of_get {o : Option String} (h : m.get key = o.map .str) :
    optStr m key = some o := by
  unfold optStr
  rw [h]
  cases o <;> rfl

theorem optValue_of_get {o : Option Json} (h : m.get key = o) (hnull : o ≠ some .null) :
    optValue m key = o := by
  unfold optValue
  rw [h]
  cases o with
  | none => rfl
  | some v =>
    cases v with
    | null => exact absurd rfl hnull
    | _ => rfl

/-- A code is decoded again: it is in the range of an `i64`. -/
theorem errorCode_toInt (code : Int64) : errorCode (.num (.int code.toInt)) = some code := by
  unfold errorCode Json.asI64?
  simp only
  rw [if_pos ⟨Int64.le_toInt code, Int64.toInt_lt code⟩, Option.map_some, Int64.ofInt_toInt]

theorem ErrorObject.fromValue_toValue {e : ErrorObject} (h : e.data ≠ some .null) :
    ErrorObject.fromValue e.toValue = some e := by
  have hnd : ["code", "message", "data"].Nodup := by decide
  have hget := Members.get_present (l := e.fields) hnd
  have hcode := hget "code"
  have hmessage := hget "message"
  have hdata := optValue_of_get (hget "data") h
  unfold ErrorObject.toValue ErrorObject.fromValue
  simp only [hcode, hmessage, hdata]
  show (errorCode (.num (.int e.code.toInt))).bind _ = _
  rw [errorCode_toInt]
  rfl

variable {env : Envelope}

/-- The envelope can be told from its encoding: its extra members are not named like a field, and
its optional values are absent rather than null. -/
structure Envelope.Clear (env : Envelope) : Prop where
  extra : ∀ kv ∈ env.extra, kv.1 ∉ Envelope.names
  payload : env.payload ≠ some .null
  error : ∀ e, env.error = some e → e.data ≠ some .null

/-- The encoding holds every field under its name. -/
theorem Envelope.Clear.get (h : env.Clear) (hkey : key ∈ Envelope.names) :
    ((Members.present env.fields).extend env.extra).get key = (env.fields.lookup key).join := by
  have hextra : Members.get env.extra key = none := Members.get_of_not_mem fun kv hkv hk =>
    h.extra kv hkv (hk ▸ hkey)
  rw [Members.get_extend, hextra, Option.none_or]
  exact Members.get_present (l := env.fields) (by decide : Envelope.names.Nodup) key

/-- What is not a field is extra. -/
theorem Envelope.Clear.filter (h : env.Clear) :
    ((Members.present env.fields).extend env.extra).filter
      (fun kv => decide (kv.1 ∉ Envelope.names)) = env.extra :=
  Members.filter_extend (fun kv hkv => Members.keys_present (l := env.fields) kv hkv) h.extra

/-- Decode undoes encode. -/
theorem Envelope.Clear.fromValue_toValue (h : env.Clear) :
    Envelope.fromValue env.toValue = some env := by
  have hget := fun key (hkey : key ∈ Envelope.names) => h.get hkey
  have hproto := hget "proto" (by decide)
  have htype := hget "type" (by decide)
  have hmethod := optStr_of_get (o := env.method) (hget "method" (by decide))
  have hparams := optField_of_get Json.asObject? Json.obj (o := env.params)
    (fun _ _ => rfl) nofun (hget "params" (by decide))
  have hid := optStr_of_get (o := env.id) (hget "id" (by decide))
  have hresult := optField_of_get Json.asObject? Json.obj (o := env.result)
    (fun _ _ => rfl) nofun (hget "result" (by decide))
  have herror := optField_of_get ErrorObject.fromValue ErrorObject.toValue
    (o := env.error) (fun e he => ErrorObject.fromValue_toValue (h.error e he)) nofun
    (hget "error" (by decide))
  have hpayload := optValue_of_get (o := env.payload) (hget "payload" (by decide)) h.payload
  have hreceipt := optStr_of_get (o := env.receipt) (hget "receipt" (by decide))
  unfold Envelope.toValue Envelope.fromValue strOrDefault
  simp only [Json.asObject?, Option.bind_eq_bind, Option.bind_some, hproto, htype, hmethod,
    hparams, hid, hresult, herror, hpayload, hreceipt, h.filter]
  rfl

end SootheClient.Frame
