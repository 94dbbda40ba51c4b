import SootheClient.Frame.Envelope

/-!
# Typed decoding

The client's own envelopes are decoded as they were encoded. An event that comes wrapped in a
`next` frame is projected field by field, where an event on its own is decoded as a whole.
-/

namespace SootheClient.Frame

open Json (Members)

variable {env : Envelope} {m : Members}

/-! ## The client's envelopes -/

/-- The envelopes that the constructors build. -/
inductive Built : Envelope → Prop where
  | request (newRequestId method : String) (params : Members) :
    Built (newRequest newRequestId method params)
  | requestWithId (newRequestId method : String) (params : Members) (id : String) :
    Built (newRequestWithId newRequestId method params id)
  | notification (method : String) (params : Members) : Built (newNotification method params)
  | subscribe (newRequestId method : String) (params : Members) :
    Built (newSubscribe newRequestId method params)
  | unsubscribe (id : String) : Built (newUnsubscribe id)
  | connectionInit : Built newConnectionInit
  | ping : Built newPing
  | pong : Built newPong
  | disconnect : Built newDisconnect

/-- A built envelope carries no error, payload or extra member. -/
theorem Built.clear (h : Built env) : env.Clear := by
  have hplain : env.extra = [] ∧ env.payload = none ∧ env.error = none := by
    cases h <;> exact ⟨rfl, rfl, rfl⟩
  obtain ⟨hextra, hpayload, herror⟩ := hplain
  refine ⟨fun kv hkv => ?_, ?_, fun e he => ?_⟩
  · rw [hextra] at hkv
    exact absurd hkv List.not_mem_nil
  · rw [hpayload]
    exact nofun
  · rw [herror] at he
    cases he

theorem Built.type (h : Built env) : env.msgType ∈ ENVELOPE_TYPES := by
  cases h <;> exact of_decide_eq_true rfl

/-- A clear envelope of a class of envelopes is decoded as itself. -/
theorem Envelope.Clear.typed (h : env.Clear) (ht : env.msgType ∈ ENVELOPE_TYPES) :
    TypedMessage.fromValue env.toValue = .envelope env := by
  have htype : env.toValue.getStr "type" = some env.msgType := by
    unfold Json.getStr Envelope.toValue Json.get
    simp only [Json.asObject?, Option.bind_some]
    rw [h.get (by decide)]
    rfl
  unfold TypedMessage.fromValue
  rw [htype]
  simp only
  rw [if_pos ht, h.fromValue_toValue]
  rfl

/-- **Decode undoes encode.** A clear envelope is decoded from its encoding, and every envelope
that a constructor builds is so as a typed message. -/
theorem envelope_round_trip : (∀ env : Envelope, env.Clear →
      Envelope.fromValue env.toValue = some env) ∧
    ∀ env, Built env → TypedMessage.fromValue env.toValue = .envelope env :=
  ⟨fun _ h => h.fromValue_toValue, fun _ h => h.clear.typed h.type⟩

/-- With an error that carries data, a payload and an extra member. -/
theorem envelope_round_trip_error :
    Envelope.fromValue (Envelope.toValue
      { bareEnvelope "error" with
        error := some ⟨-32601, "no such method", some (.arr [.null])⟩
        payload := some (.obj [("proto", .null)])
        extra := [("state", .str "idle")] }) =
      some { bareEnvelope "error" with
        error := some ⟨-32601, "no such method", some (.arr [.null])⟩
        payload := some (.obj [("proto", .null)])
        extra := [("state", .str "idle")] } :=
  envelope_round_trip.1 _
    { extra := by decide
      payload := nofun
      error := by
        rintro e he
        obtain rfl := Option.some.inj he
        exact nofun }

/-! ## Wrapped events -/

/-- An event frame: its mode is a string, its optional fields are well typed and not null, and
its loop id is not empty. -/
structure IsEventFrame (m : Members) : Prop where
  type : m.get "type" = some (.str "event")
  mode : ∃ s, m.get "mode" = some (.str s)
  requestId : ∃ o : Option String, m.get "request_id" = o.map .str
  timestamp : ∃ o : Option String, m.get "timestamp" = o.map .str
  loopId : ∃ o : Option String, m.get "loop_id" = o.map .str ∧ o ≠ some ""
  ns : m.get "namespace" ≠ some .null
  data : m.get "data" ≠ some .null

/-- The frame in a `next` envelope. -/
def wrapNext (frame : Json) : Json :=
  .obj [("type", .str "next"), ("payload", .obj [("mode", .str "event"), ("data", frame)])]

/-- The event as the projection of a wrapped frame has it. -/
def EventMessage.projected (em : EventMessage) (loopIdCamel : Option String) : EventMessage :=
  { em with
    base := { em.base with requestId := none }
    loopId := em.loopId.or loopIdCamel
    timestamp := none }

/-- An event frame is decoded as an event of its own fields. -/
theorem IsEventFrame.fromValue (h : IsEventFrame m) : ∃ em,
    TypedMessage.fromValue (.obj m) = .event em ∧
    em.base.type = some "event" ∧ (m.get "request_id" = em.base.requestId.map .str) ∧
    (m.get "timestamp" = em.timestamp.map .str) ∧ (m.get "loop_id" = em.loopId.map .str) ∧
    em.loopId ≠ some "" ∧ em.mode = (m.get "mode").bind Json.asStr? ∧
    em.ns = m.get "namespace" ∧ em.data = m.get "data" := by
  obtain ⟨htype, ⟨mode, hmode⟩, ⟨r, hr⟩, ⟨t, ht⟩, ⟨l, hl, hne⟩, hns, hdata⟩ := h
  refine ⟨{ base := { requestId := r, type := some "event" }, loopId := l, ns := m.get "namespace",
            mode := some mode, data := m.get "data", timestamp := t }, ?_, rfl, hr, ht, hl, hne, ?_,
            rfl, rfl⟩
  · have hstr : (Json.obj m).getStr "type" = some "event" := by
      rw [getStr_obj, htype]
      rfl
    unfold TypedMessage.fromValue EventMessage.fromValue
    rw [hstr]
    simp only
    rw [if_neg (by decide), if_neg (by decide), if_pos trivial]
    have hm : optStr m "mode" = some (some mode) := optStr_of_get hmode
    have hty : optStr m "type" = some (some "event") := optStr_of_get htype
    simp only [Json.asObject?, Option.bind_eq_bind, Option.bind_some, optStr_of_get hr, hty,
      optStr_of_get hl, hm, optStr_of_get ht, optValue_of_get rfl hns, optValue_of_get rfl hdata]
    rfl
  · rw [hmode]
    rfl

/-- A wrapped event frame is projected. -/
theorem IsEventFrame.fromValue_wrapNext (h : IsEventFrame m) :
    TypedMessage.fromValue (wrapNext (.obj m)) =
      .event (projectEvent m ((nonEmptyStr m "loop_id").or (nonEmptyStr m "loopId"))) := by
  have henv : Envelope.fromValue (wrapNext (.obj m)) = some
      { bareEnvelope "next" with
        proto := ""
        payload := some (.obj [("mode", .str "event"), ("data", .obj m)]) } := rfl
  have hinner : nextToEventMessage
      { bareEnvelope "next" with
        proto := ""
        payload := some (.obj [("mode", .str "event"), ("data", .obj m)]) } =
      some (projectEvent m ((nonEmptyStr m "loop_id").or (nonEmptyStr m "loopId"))) := by
    obtain ⟨mode, hmode⟩ := h.mode
    have htype : valueAsStr (m.get "type") = "event" := by
      rw [h.type]
      rfl
    have hhas : m.containsKey "mode" = true := by
      unfold Members.containsKey
      rw [hmode]
      rfl
    show (if (valueAsStr (m.get "type") = "event" || valueAsStr (m.get "type") = "") &&
      m.containsKey "mode" then some _ else _) = _
    rw [htype, hhas]
    rfl
  have hstr : (wrapNext (.obj m)).getStr "type" = some "next" := rfl
  unfold TypedMessage.fromValue
  rw [hstr, henv]
  simp only
  rw [hinner, if_neg (by decide), if_pos trivial]
  rfl

/-- **Wrapped decoding.** An event frame and the same frame in a `next` envelope are decoded into
events with one type, mode, payload and namespace; the wrapped one has no request id and no
timestamp, and without a `loop_id` it takes `loopId`. So they are equal exactly when the frame
carries neither of the two and nothing is taken. -/
theorem typed_decode_wrapped (m : Members) (h : IsEventFrame m) : ∃ em,
    TypedMessage.fromValue (.obj m) = .event em ∧
    TypedMessage.fromValue (wrapNext (.obj m)) = .event (em.projected (nonEmptyStr m "loopId")) ∧
    (TypedMessage.fromValue (wrapNext (.obj m)) = TypedMessage.fromValue (.obj m) ↔
      m.get "request_id" = none ∧ m.get "timestamp" = none ∧
        (m.get "loop_id" = none → nonEmptyStr m "loopId" = none)) := by
  obtain ⟨em, hem, htype, hr, ht, hl, hne, hmode, hns, hdata⟩ := h.fromValue
  have hloop : nonEmptyStr m "loop_id" = em.loopId := by
    unfold nonEmptyStr
    rw [hl]
    cases hid : em.loopId with
    | none => rfl
    | some l =>
      rw [hid] at hne
      exact Option.filter_some_pos (decide_eq_true fun hc => hne (congrArg some hc))
  have hproj : projectEvent m (em.loopId.or (nonEmptyStr m "loopId")) =
      em.projected (nonEmptyStr m "loopId") := by
    unfold projectEvent EventMessage.projected
    simp only [hmode, hns, hdata, htype]
  have hwrap : TypedMessage.fromValue (wrapNext (.obj m)) =
      .event (em.projected (nonEmptyStr m "loopId")) := by
    rw [h.fromValue_wrapNext, hloop, hproj]
  refine ⟨em, hem, hwrap, ?_⟩
  rw [hwrap, hem, hr, ht, hl, Option.map_eq_none_iff, Option.map_eq_none_iff,
    Option.map_eq_none_iff]
  constructor
  · intro heq
    have heq := TypedMessage.event.inj heq
    have hid := congrArg (fun e => e.base.requestId) heq
    have hts := congrArg EventMessage.timestamp heq
    have hlo : em.loopId.or (nonEmptyStr m "loopId") = em.loopId := congrArg EventMessage.loopId heq
    refine ⟨hid.symm, hts.symm, fun hnone => ?_⟩
    rwa [hnone, Option.none_or] at hlo
  · rintro ⟨hid, hts, hlo⟩
    have hlo : em.loopId.or (nonEmptyStr m "loopId") = em.loopId := by
      cases hlid : em.loopId with
      | none => rw [hlo hlid, Option.or_none]
      | some l => rfl
    obtain ⟨⟨requestId, type⟩, loopId, ns, mode, data, timestamp⟩ := em
    obtain rfl : requestId = none := hid
    obtain rfl : timestamp = none := hts
    unfold EventMessage.projected
    rw [hlo]

/-- With a loop id and nothing that the projection leaves out. -/
theorem typed_decode_wrapped_loop :
    TypedMessage.fromValue (wrapNext (.obj [("type", .str "event"), ("mode", .str "messages"),
        ("data", .arr []), ("loop_id", .str "L1")])) =
      TypedMessage.fromValue (.obj [("type", .str "event"), ("mode", .str "messages"),
        ("data", .arr []), ("loop_id", .str "L1")]) := by
  obtain ⟨em, -, -, hiff⟩ := typed_decode_wrapped [("type", .str "event"),
    ("mode", .str "messages"), ("data", .arr []), ("loop_id", .str "L1")]
    { type := rfl
      mode := ⟨"messages", rfl⟩
      requestId := ⟨none, rfl⟩
      timestamp := ⟨none, rfl⟩
      loopId := ⟨some "L1", rfl, by decide⟩
      ns := nofun
      data := nofun }
  exact hiff.2 ⟨rfl, rfl, nofun⟩

/-- A wrapped event loses its timestamp. -/
theorem typed_decode_wrapped_fails : ¬ ∀ m, IsEventFrame m →
    TypedMessage.fromValue (wrapNext (.obj m)) = TypedMessage.fromValue (.obj m) := by
  intro h
  have heq := h [("type", .str "event"), ("mode", .str "custom"), ("timestamp", .str "12:00")]
    { type := rfl
      mode := ⟨"custom", rfl⟩
      requestId := ⟨none, rfl⟩
      timestamp := ⟨some "12:00", rfl⟩
      loopId := ⟨none, rfl, nofun⟩
      ns := nofun
      data := nofun }
  exact absurd (congrArg EventMessage.timestamp (TypedMessage.event.inj heq)) (by decide)

end SootheClient.Frame
